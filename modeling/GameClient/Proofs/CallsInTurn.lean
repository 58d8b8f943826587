import GameClient.Proofs.HeldCalls
import Mathlib.Data.List.Induction

/-!
# Calls in turn

Calls are made, polled and dropped in any order, and in between gates are put up, permits are
released, and the script is changed. Whatever the order, a call is recorded when it is polled first,
it stands at the gate that was present then, and those who stand at a gate are let through in the
order in which they came, as many as permits were released. The main statement is
`calls_answered_in_turn`.
-/

namespace GameClient.Gateway

open Session (Ticket)
open Semaphore (unused)

namespace Traffic

variable {G : Type} [Semaphore G] {ticket : Ticket} {schema : PurchaseSchema} {script : Scripted G}
  {traffic : Traffic G} {moment : Moment} {past : List Moment} {future other number : Nat}
  {call : Call}

/-! ### Futures -/

/-- How far a future has come. -/
def stage (past : List Moment) (future : Nat) (call : Call) : Stage :=
  if Over past future then .done
  else if future ∈ came past then .held call (place past future)
  else .made call

/-- Nothing is told of a future, which stays as it is. -/
theorem stage_cons (unpolled : moment.polls? ≠ some future) (unended : moment.ends? ≠ some future) :
    stage (moment :: past) future = stage past future := by
  funext call
  have mem_iff : future ∈ came (moment :: past) ↔ future ∈ came past := by
    simp [mem_came_iff, unpolled]
  unfold stage
  by_cases mem : future ∈ came past
  · simp only [over_cons_iff, unended, false_or, mem_iff, place_cons mem]
  · simp only [over_cons_iff, unended, false_or, mem_iff, mem, if_false]

/-- The backend and the futures are in the state that the history says. -/
structure Tracks (ticket : Ticket) (schema : PurchaseSchema) (traffic : Traffic G)
    (past : List Moment) : Prop where
  serves : Serves ticket schema traffic.script past
  futures : ∀ future, traffic.futures[future]? = (made past)[future]?.map (stage past future)
  ended : ∀ future, Over past future → future < (made past).length

namespace Tracks

theorem start : Tracks ticket schema (start ticket schema : Traffic G) [] where
  serves := {
    follows := ⟨rfl, rfl, fun _ => rfl, fun _ => rfl, rfl, rfl⟩
    calls := rfl
    gates := nofun
    bound := nofun }
  futures _ := rfl
  ended future isOver := by simp [Over] at isOver

theorem came_lt (tracks : Tracks ticket schema traffic past) (mem : future ∈ came past) :
    future < (made past).length := by
  have recorded : (made past)[future]? ∈ traffic.script.calls.map some := by
    rw [tracks.serves.calls]
    exact List.mem_map_of_mem mem
  obtain ⟨call, -, found⟩ := List.mem_map.mp recorded
  exact (List.getElem?_eq_some_iff.mp found.symm).1

theorem future_eq (tracks : Tracks ticket schema traffic past)
    (found : (made past)[future]? = some call) :
    traffic.futures[future]? = some (stage past future call) := by
  rw [tracks.futures, found]
  rfl

theorem length_futures (tracks : Tracks ticket schema traffic past) :
    traffic.futures.length = (made past).length := by
  have listed : traffic.futures = (made past).mapIdx (stage past) := by
    apply List.ext_getElem?
    intro future
    rw [tracks.futures, List.getElem?_mapIdx]
  rw [listed, List.length_mapIdx]

/-- Something is told of one future, and of no other. -/
theorem cons (tracks : Tracks ticket schema traffic past) (found : (made past)[future]? = some call)
    (serves : Serves ticket schema script (moment :: past))
    (same : made (moment :: past) = made past)
    (polls : ∀ other, moment.polls? = some other → other = future)
    (ends : ∀ other, moment.ends? = some other → other = future) :
    Tracks ticket schema
      { script, futures := traffic.futures.set future (stage (moment :: past) future call) }
      (moment :: past) where
  serves := serves
  futures other := by
    rw [same]
    by_cases this : future = other
    · subst this
      have bound := (List.getElem?_eq_some_iff.mp (tracks.future_eq found)).1
      rw [List.getElem?_set_self bound, found]
      rfl
    · rw [List.getElem?_set_ne this, tracks.futures, stage_cons]
      · exact fun polled => this (polls other polled).symm
      · exact fun ended => this (ends other ended).symm
  ended other isOver := by
    rw [same]
    rcases over_cons_iff.mp isOver with now | before
    · obtain rfl := ends other now
      exact (List.getElem?_eq_some_iff.mp found).1
    · exact tracks.ended other before

theorem stage_of_over (isOver : Over past future) (call : Call) : stage past future call = .done :=
  if_pos isOver

/-- There is nothing to do for a future that is not open. -/
theorem idle (tracks : Tracks ticket schema traffic past) (idle : ¬ ∃ call, Open past future call) :
    traffic.poll future = (traffic, .nothing) ∧ traffic.drop future = (traffic, .nothing) := by
  -- It was never made, or it is over.
  have none_or : traffic.futures[future]? = none ∨ traffic.futures[future]? = some .done := by
    rw [tracks.futures]
    cases found : (made past)[future]? with
    | none => exact .inl rfl
    | some call =>
        have isOver : Over past future := by_contra fun alive => idle ⟨call, found, alive⟩
        exact .inr (congrArg some (stage_of_over isOver call))
  unfold Traffic.poll Traffic.drop
  rcases none_or with found | found <;> simp only [found, and_self]

/-- A future that is polled is settled as the history says. -/
theorem poll_eq [Semaphore.Fair G] (tracks : Tracks ticket schema traffic past)
    (isOpen : Open past future call) :
    ∃ settled, traffic.poll future = traffic.settle future call (place past future) settled ∧
      Settles ticket schema past future call settled := by
  obtain ⟨found, alive⟩ := isOpen
  have reached := tracks.future_eq found
  rw [stage, if_neg alive] at reached
  unfold Traffic.poll
  by_cases mem : future ∈ came past
  · rw [if_pos mem] at reached
    simp only [reached]
    exact ⟨_, rfl, tracks.serves.settles_poll mem alive call⟩
  · rw [if_neg mem] at reached
    simp only [reached, tracks.serves.length_calls, ← place_of_notMem mem]
    exact ⟨_, rfl, tracks.serves.settles_arrive found mem alive⟩

theorem settle (tracks : Tracks ticket schema traffic past) (isOpen : Open past future call)
    {settled : Scripted G × Option call.Answer}
    (settles : Settles ticket schema past future call settled) :
    Tracks ticket schema (traffic.settle future call (place past future) settled).1
      ((traffic.settle future call (place past future) settled).2 :: past) := by
  obtain ⟨found, alive⟩ := isOpen
  have serves := settles.serves
  cases settled with
  | mk next answer? =>
      cases answer? with
      | none =>
          have stays : stage (.pending future :: past) future call =
              .held call (place past future) := by
            have alive' : ¬ Over (.pending future :: past) future := by
              rw [over_cons_iff]
              exact not_or.mpr ⟨nofun, alive⟩
            have mem : future ∈ came (.pending future :: past) :=
              mem_came_iff.mpr ⟨_, List.mem_cons_self, rfl⟩
            rw [stage, if_neg alive', if_pos mem, place_of_polls rfl]
          rw [Traffic.settle, ← stays]
          exact tracks.cons found serves rfl
            (fun other polled => (Option.some.inj polled).symm) nofun
      | some answer =>
          have done : stage (.answered future call answer :: past) future call = .done :=
            stage_of_over (over_cons_iff.mpr (.inl rfl)) call
          rw [Traffic.settle, ← done]
          exact tracks.cons found serves rfl (fun other polled => (Option.some.inj polled).symm)
            fun other ended => (Option.some.inj ended).symm

/-- Nothing is told of a future. -/
theorem untold (tracks : Tracks ticket schema traffic past)
    (same : made (moment :: past) = made past) (unpolled : moment.polls? = none)
    (unended : moment.ends? = none) (serves : Serves ticket schema script (moment :: past)) :
    Tracks ticket schema { traffic with script } (moment :: past) where
  serves := serves
  futures other := by
    rw [same, stage_cons (by simp [unpolled]) (by simp [unended])]
    exact tracks.futures other
  ended other isOver := by
    rw [same]
    exact tracks.ended other ((over_cons_iff.mp isOver).resolve_left (by simp [unended]))

theorem nothing (tracks : Tracks ticket schema traffic past) :
    Tracks ticket schema traffic (.nothing :: past) :=
  tracks.untold rfl rfl rfl (tracks.serves.silent (.inl rfl) fun _ _ => rfl)

theorem poll [Semaphore.Fair G] (tracks : Tracks ticket schema traffic past) (future : Nat) :
    Tracks ticket schema (traffic.poll future).1 ((traffic.poll future).2 :: past) := by
  by_cases isOpen : ∃ call, Open past future call
  · obtain ⟨call, isOpen⟩ := isOpen
    obtain ⟨settled, polled, settles⟩ := tracks.poll_eq isOpen
    rw [polled]
    exact tracks.settle isOpen settles
  · rw [(tracks.idle isOpen).1]
    exact tracks.nothing

theorem drop_eq (tracks : Tracks ticket schema traffic past) (isOpen : Open past future call) :
    (traffic.drop future).2 = .dropped future := by
  have reached := tracks.future_eq isOpen.1
  rw [stage, if_neg isOpen.2] at reached
  unfold Traffic.drop
  split at reached <;> simp only [reached]

theorem drop [Semaphore.Fair G] (tracks : Tracks ticket schema traffic past) (future : Nat) :
    Tracks ticket schema (traffic.drop future).1 ((traffic.drop future).2 :: past) := by
  by_cases isOpen : ∃ call, Open past future call
  · obtain ⟨call, found, alive⟩ := isOpen
    have reached := tracks.future_eq found
    rw [stage, if_neg alive] at reached
    have done : stage (.dropped future :: past) future call = .done :=
      stage_of_over (over_cons_iff.mpr (.inl rfl)) call
    unfold Traffic.drop
    by_cases mem : future ∈ came past
    · rw [if_pos mem] at reached
      simp only [reached, ← done]
      exact tracks.cons found (tracks.serves.leave mem alive) rfl nofun
        fun other ended => (Option.some.inj ended).symm
    · rw [if_neg mem] at reached
      simp only [reached, ← done]
      exact tracks.cons found (tracks.serves.dropped mem) rfl nofun
        fun other ended => (Option.some.inj ended).symm
  · rw [(tracks.idle isOpen).2]
    exact tracks.nothing

/-- A new future takes its place behind all others. -/
theorem make (tracks : Tracks ticket schema traffic past) (call : Call) :
    Tracks ticket schema { traffic with futures := traffic.futures ++ [.made call] }
      (.made call :: past) where
  serves := by
    refine tracks.serves.silent (.inr ⟨call, rfl⟩) fun other mem => ?_
    exact List.getElem?_append_left (tracks.came_lt mem)
  futures other := by
    rw [made, List.getElem?_append, List.getElem?_append, tracks.length_futures,
      stage_cons (by simp [Moment.polls?]) (by simp [Moment.ends?])]
    split
    · exact tracks.futures other
    · rename_i new
      -- Beyond those that were made nothing has been told of any future.
      have comes : other ∉ came past := fun mem => new (tracks.came_lt mem)
      have alive : ¬ Over past other := fun isOver => new (tracks.ended other isOver)
      have unpolled : stage past other = .made := by
        funext call
        rw [stage, if_neg alive, if_neg comes]
      rw [unpolled]
      cases other - (made past).length <;> rfl
  ended other isOver := by
    have before := tracks.ended other
      ((over_cons_iff.mp isOver).resolve_left (by simp [Moment.ends?]))
    rw [made, List.length_append]
    omega

theorem step [Semaphore.Fair G] (tracks : Tracks ticket schema traffic past) (step : Step) :
    Tracks ticket schema (traffic.step step).1 ((traffic.step step).2 :: past) := by
  cases step with
  | make call => exact tracks.make call
  | poll future => exact tracks.poll future
  | drop future => exact tracks.drop future
  | direct direction => exact tracks.untold rfl rfl rfl (tracks.serves.direct direction)

theorem run (G : Type) [Semaphore G] [Semaphore.Fair G] (ticket : Ticket)
    (schema : PurchaseSchema) (steps : List Step) :
    Tracks ticket schema (run ticket schema steps : Traffic G × List Moment).1
      (run ticket schema steps : Traffic G × List Moment).2 := by
  induction steps using List.reverseRecOn with
  | nil => exact start
  | append_singleton steps step ih =>
      rw [Traffic.run, List.foldl_append]
      exact ih.step step

/-- What a dropped call leaves at the gates: as many unused permits as before. -/
theorem unused_of_dropped (tracks : Tracks ticket schema traffic past) {next : Traffic G}
    (dropped : Tracks ticket schema next (.dropped future :: past)) (number : Nat) :
    next.script.gates[number]?.map unused = traffic.script.gates[number]?.map unused := by
  by_cases up : number < raised past
  · obtain ⟨gate, found, agrees⟩ := tracks.serves.exists_gate up
    obtain ⟨gate', found', agrees'⟩ := dropped.serves.exists_gate up
    rw [found, found', Option.map_some, Option.map_some, unused, unused, ← agrees.unused_eq,
      ← agrees'.unused_eq]
    rfl
  · have before := tracks.serves.follows.length
    have after := dropped.serves.follows.length
    have same : raised (.dropped future :: past) = raised past := rfl
    rw [List.getElem?_eq_none (by omega), List.getElem?_eq_none (by omega)]

end Tracks

/-! ### Calls are answered in turn -/

/-- What holds of the traffic at a scripted backend, whatever was done. -/
structure InTurn (ticket : Ticket) (schema : PurchaseSchema) (traffic : Traffic G)
    (past : List Moment) : Prop where
  /-- The record holds one call for each future that was polled, in the order of the first polls. -/
  recorded : traffic.script.calls.map some = (came past).map fun future => (made past)[future]?
  once : (came past).Nodup
  polled : ∀ future, future ∈ came past ↔ ∃ moment ∈ past, moment.polls? = some future
  gates : traffic.script.gates.length = raised past
  conserved : ∀ (number : Nat) (gate : G), traffic.script.gates[number]? = some gate →
    passedAt number past + unused gate = releasedTo number past
  /-- A call that is held stands at the gate that was present when it was polled first. -/
  bound : ∀ number, ∀ future ∈ standing number past,
    traffic.script.bound.lookup (place past future) = some number
  through : ∀ future call, Open past future call → Passes future past →
    (traffic.step (.poll future)).2 = .answered future call (answerNow ticket schema past call)
  held : ∀ future call, Open past future call → ¬ Passes future past →
    (traffic.step (.poll future)).2 = .pending future
  /-- A call that is dropped stays on record, and uses no permit. -/
  dropped : ∀ future call, Open past future call →
    (traffic.step (.drop future)).2 = .dropped future ∧
      (traffic.step (.drop future)).1.script.calls = traffic.script.calls ∧
        ∀ number : Nat, (traffic.step (.drop future)).1.script.gates[number]?.map unused =
          traffic.script.gates[number]?.map unused
  idle : ∀ future, (¬ ∃ call, Open past future call) →
    traffic.step (.poll future) = (traffic, .nothing) ∧
      traffic.step (.drop future) = (traffic, .nothing)

/-- **Held calls.** Whatever is made, polled, dropped and directed, calls are recorded once, in the
order of their first polls; a call stands at the gate that was present then; of the permits that
were released to a gate those are unused that let no call through; and a call that is polled gets
through exactly if fewer calls stand before it than there are such permits, with the answer that the
script gives by then. -/
theorem calls_answered_in_turn (G : Type) [Semaphore G] [Semaphore.Fair G] (ticket : Ticket)
    (schema : PurchaseSchema) (steps : List Step) :
    InTurn ticket schema (run ticket schema steps : Traffic G × List Moment).1
      (run ticket schema steps : Traffic G × List Moment).2 := by
  have tracks := Tracks.run G ticket schema steps
  generalize (run ticket schema steps : Traffic G × List Moment) = current at tracks ⊢
  obtain ⟨traffic, past⟩ := current
  have serves := tracks.serves
  refine ⟨serves.calls, nodup_came past, fun _ => mem_came_iff, serves.follows.length, ?_, ?_, ?_,
    ?_, ?_, fun future idle => tracks.idle idle⟩
  · exact fun number gate up => (serves.gates number gate up).conserved
  · intro number future stands
    obtain ⟨mem, here, alive⟩ := mem_standing_iff.mp stands
    obtain ⟨gate, bound, found⟩ := serves.bound future mem alive
    rwa [← Option.some.inj (bound.symm.trans here)]
  · intro future call isOpen passes
    obtain ⟨⟨next, answer?⟩, polled, settles⟩ := tracks.poll_eq isOpen
    obtain rfl : answer? = _ := settles.through passes
    exact congrArg Prod.snd polled
  · intro future call isOpen stays
    obtain ⟨⟨next, answer?⟩, polled, settles⟩ := tracks.poll_eq isOpen
    obtain rfl : answer? = none := settles.held stays
    exact congrArg Prod.snd polled
  · intro future call isOpen
    have told : (traffic.step (.drop future)).2 = .dropped future := tracks.drop_eq isOpen
    have after := tracks.step (.drop future)
    rw [told] at after
    refine ⟨told, ?_, tracks.unused_of_dropped after⟩
    -- The record is the list of calls that came, and a drop adds none to it.
    exact List.map_injective_iff.mpr (fun _ _ => Option.some.inj)
      (after.serves.calls.trans serves.calls.symm)

/-- Two calls come to the gate of their operation, and one permit is released: the call goes on that
was polled first, not the one that was made first. -/
theorem first_comer_gets_the_permit :
    let current : Traffic × List Moment := run ⟨"ABC123", "XYZ"⟩ anyObject
      [.direct (.hold .getPurchaseSchema), .make .getPurchaseSchema, .make .getPurchaseSchema,
        .poll 1, .poll 0, .direct (.releaseOperation .getPurchaseSchema 1)]
    Semaphore.Fair Gate ∧
      (current.1.step (.poll 1)).2 = .answered 1 .getPurchaseSchema (.ok anyObject) ∧
        (current.1.step (.poll 0)).2 = .pending 0 := by
  intro current
  have inTurn : InTurn _ _ current.1 current.2 := calls_answered_in_turn Gate _ _ _
  refine ⟨inferInstance, inTurn.through 1 _ ⟨rfl, by decide⟩ ?_,
    inTurn.held 0 _ ⟨rfl, by decide⟩ ?_⟩
  · intro gate gated
    obtain rfl : 0 = gate := Option.some.inj gated
    decide
  · intro passes
    have before := passes 0 rfl
    revert before
    decide

end Traffic

end GameClient.Gateway
