import GameClient.Proofs.History

/-!
# Replaying a history

A history says what each turn of the core did, not what the core held then. For some views of the
core that is enough: what a moment makes of the view is told by the moment alone (`Replays`), and
what the view shows after a run is found by replaying the history (`Replays.of_moves`). Which ticket
is held is such a view, and so are the phase, the error that is shown and the registry.
-/

namespace GameClient

variable {α : Type} {view : Core → α} {replay : α → Moment → α}

/-- What a turn of the core makes of a view is told by its moment. -/
structure Replays (view : Core → α) (replay : α → Moment → α) : Prop where
  ended : ∀ {core after : Core} {command : Command} {result : Result},
    core.Started command after (.finished result) →
      view after = replay (view core) (.ended command result)
  called : ∀ {core after : Core} {command : Command} {pending : Pending},
    core.Started command after (.suspended pending) →
      view after = replay (view core) (.called pending)
  answered : ∀ {core after : Core} {pending : Pending} {answer : pending.call.Answer}
    {result : Result}, core.Settled pending answer after result →
      view after = replay (view core) (.answered pending answer result)
  dropped : ∀ (core : Core) (pending : Pending),
    view (core.abandon pending) = replay (view core) (.dropped pending)
  pushedRegistry : ∀ (core : Core) (snapshot : RegistrySnapshot),
    view (core.pushRegistry snapshot).core = replay (view core) (.pushedRegistry snapshot)
  pushedChat : ∀ (core : Core) (messages : List Chat.Message),
    view (core.pushChat messages).core = replay (view core) (.pushedChat messages)

theorem Replays.of_moves (replays : Replays view replay) {first core : Core}
    {waitingFirst waiting : List Pending} {past : List Moment}
    (moves : Moves first waitingFirst past core waiting) :
    view core = past.foldl replay (view first) := by
  induction moves with
  | start => rfl
  | ended _ started ih => rw [List.foldl_concat, ← ih, replays.ended started]
  | called _ started ih => rw [List.foldl_concat, ← ih, replays.called started]
  | answered _ settled ih => rw [List.foldl_concat, ← ih, replays.answered settled]
  | dropped _ ih => rw [List.foldl_concat, ← ih, replays.dropped]
  | pushedRegistry _ ih => rw [List.foldl_concat, ← ih, replays.pushedRegistry]
  | pushedChat _ ih => rw [List.foldl_concat, ← ih, replays.pushedChat]

/-- What is read off such a view is told by the history, too. -/
theorem Replays.map {β : Type} {part : α → β} {replayPart : β → Moment → β}
    (replays : Replays view replay)
    (commutes : ∀ a moment, part (replay a moment) = replayPart (part a) moment) :
    Replays (fun core => part (view core)) replayPart where
  ended started := by rw [replays.ended started, commutes]
  called started := by rw [replays.called started, commutes]
  answered settled := by rw [replays.answered settled, commutes]
  dropped core pending := by rw [replays.dropped, commutes]
  pushedRegistry core snapshot := by rw [replays.pushedRegistry, commutes]
  pushedChat core messages := by rw [replays.pushedChat, commutes]

theorem Moves.trans {first middle core : Core} {waitingFirst waitingMiddle waiting : List Pending}
    {past rest : List Moment} (before : Moves first waitingFirst past middle waitingMiddle)
    (after : Moves middle waitingMiddle rest core waiting) :
    Moves first waitingFirst (past ++ rest) core waiting := by
  induction after with
  | start => rwa [List.append_nil]
  | ended _ started ih =>
      rw [← List.append_assoc]
      exact .ended ih started
  | called _ started ih =>
      rw [← List.append_assoc]
      exact .called ih started
  | answered _ settled ih =>
      rw [← List.append_assoc]
      exact .answered ih settled
  | dropped _ ih =>
      rw [← List.append_assoc]
      exact .dropped ih
  | pushedRegistry _ ih =>
      rw [← List.append_assoc]
      exact .pushedRegistry ih
  | pushedChat _ ih =>
      rw [← List.append_assoc]
      exact .pushedChat ih

namespace Client

variable {client : Client}

theorem moves_of_run (numbered : client.Numbered) (steps : List Step) :
    Moves client.core client.waiting (client.history steps) (client.run steps).core
      (client.run steps).waiting :=
  moves_run numbered .start steps

theorem moves_of_step (numbered : client.Numbered) (step : Step) :
    Moves client.core client.waiting (client.moments step) (client.step step).1.core
      (client.step step).1.waiting :=
  moves_step numbered .start step

end Client

theorem Replays.of_step (replays : Replays view replay) {client : Client}
    (numbered : client.Numbered) (step : Client.Step) :
    view (client.step step).1.core = (client.moments step).foldl replay (view client.core) :=
  replays.of_moves (Client.moves_of_step numbered step)

/-! ## Single moments of a step -/

namespace Client

variable {client : Client} {step : Step} {moment : Moment}

/-- A moment that is no call is all that happens in its step, but for the call before it. -/
theorem moments_of_mem (mem : moment ∈ client.moments step)
    (noCall : ∀ pending, moment ≠ .called pending) :
    client.moments step = [moment] ∨
      ∃ pending, client.moments step = [.called pending, moment] := by
  rcases client.moments_cases step with none | ⟨only, one⟩ | ⟨pending, last, two⟩
  · rw [none] at mem
    cases mem
  · rw [one] at mem
    rw [one, List.mem_singleton.mp mem]
    exact .inl rfl
  · rw [two] at mem
    rcases List.mem_cons.mp mem with call | mem
    · exact absurd call (noCall pending)
    · rw [two, List.mem_singleton.mp mem]
      exact .inr ⟨pending, rfl⟩

/-- An action whose call is answered in a step waited for it, or was started in this step. -/
theorem settled_of_answered {pending : Pending} {answer : pending.call.Answer} {result : Result}
    (mem : .answered pending answer result ∈ client.moments step) :
    ∃ core : Core, core.Settled pending answer (client.step step).1.core result ∧
      (core = client.core ∧ pending ∈ client.waiting ∨
        ∃ command, client.core.Started command core (.suspended pending)) := by
  have stepped := client.stepped step
  generalize client.moments step = moments, (client.step step).1 = after,
    (client.step step).2.outcome = outcome at *
  cases stepped with
  | answeredAtOnce started _ settled =>
      simp only [List.mem_cons, reduceCtorEq, List.not_mem_nil, or_false, false_or] at mem
      cases mem
      exact ⟨_, settled, .inr ⟨_, started⟩⟩
  | answered found _ settled =>
      cases List.mem_singleton.mp mem
      exact ⟨_, settled, .inl ⟨rfl, List.mem_map_of_mem (mem_of_task? found)⟩⟩
  | _ => simp at mem

end Client

/-- What such a moment makes of a view that calls leave alone is what its step makes of it. -/
theorem Replays.of_mem (replays : Replays view replay)
    (call : ∀ (a : α) (pending : Pending), replay a (.called pending) = a) {client : Client}
    (numbered : client.Numbered) {step : Client.Step} {moment : Moment}
    (mem : moment ∈ client.moments step) (noCall : ∀ pending, moment ≠ .called pending) :
    view (client.step step).1.core = replay (view client.core) moment := by
  rw [replays.of_step numbered step]
  rcases Client.moments_of_mem mem noCall with one | ⟨pending, two⟩
  · rw [one]
    rfl
  · rw [two, List.foldl_cons, call]
    rfl

end GameClient
