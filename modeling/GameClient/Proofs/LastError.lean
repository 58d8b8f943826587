import GameClient.Proofs.KnownGames
import GameClient.Proofs.Lasting
import GameClient.Proofs.Replay

/-!
# The error that is shown

The session shows the error of the lifecycle action that was over last: creating, joining,
finalizing and switching write it when they fail, and clear it when they succeed. Who is turned away
writes nothing, and neither does a purchase, a dropped future or a snapshot.

One success clears nothing, and that is a deselect. After it the session goes on showing an error
from before. `Moment.due?` says what the end of an action is to leave, `Moment.record?` what it does
leave; they differ for a deselect alone, and a history is `Stale` as long as that is to be seen. The
main statement is `last_error_due_iff_not_stale`.
-/

namespace GameClient

/-! ## What is recorded -/

/-- The action is one of the session, and not of the purchase form. -/
def Action.isLifecycle : Action → Bool
  | createOrJoin | finalize | switch => true
  | loadPurchaseSchema | purchaseOffer => false

/-- The action that is over after a moment, and how it ended. -/
def Moment.ending? : Moment → Option (Action × Result)
  | ended command result => some (command.action, result)
  | answered pending _ result => some (pending.action, result)
  | _ => none

/-- What the end of an action is to leave for the error that is shown. Who is turned away has not
begun, and leaves what is there. -/
def recordOf (result : Result) : Option (Option String) :=
  match result with
  | .ok _ => some none
  | .error error => if Core.isTurnedAway (.error error) then none else some (some error.message)

namespace Moment

/-- What a moment is to leave for the error that is shown; `none` if it is to leave what is there.
-/
def due? (moment : Moment) : Option (Option String) :=
  match moment.ending? with
  | some (action, result) => if action.isLifecycle then recordOf result else none
  | none => none

/-- A deselect is done. -/
def deselects : Moment → Bool
  | ended (.switch _) (.ok _) => true
  | _ => false

/-- What a moment leaves for the error that is shown: what is due, but for a deselect. -/
def record? (moment : Moment) : Option (Option String) :=
  if moment.deselects then none else moment.due?

end Moment

/-- The error that is shown after a history. -/
def shownError (history : List Moment) : Option String :=
  history.foldl (fun shown moment => moment.record?.getD shown) none

/-- The error that is to be shown after a history. -/
def dueError (history : List Moment) : Option String :=
  history.foldl (fun shown moment => moment.due?.getD shown) none

/-- A deselect was done while an error was shown, and no other action of the session has been over
since. -/
def Stale (history : List Moment) : Prop :=
  Lasts (fun before moment => moment.deselects = true ∧ (shownError before).isSome = true)
    (fun _ moment => moment.record?.isSome = true) history

theorem shownError_concat (past : List Moment) (moment : Moment) :
    shownError (past ++ [moment]) = moment.record?.getD (shownError past) :=
  List.foldl_concat _ _ _ _

theorem dueError_concat (past : List Moment) (moment : Moment) :
    dueError (past ++ [moment]) = moment.due?.getD (dueError past) :=
  List.foldl_concat _ _ _ _

theorem stale_concat {past : List Moment} {moment : Moment} :
    Stale (past ++ [moment]) ↔
      (moment.deselects = true ∧ (shownError past).isSome = true) ∨
        Stale past ∧ ¬ moment.record?.isSome = true :=
  lasts_concat

/-- The error that is shown is the latest that was recorded. -/
theorem shownError_eq_some_iff (history : List Moment) (message : String) :
    shownError history = some message ↔
      Lasts (fun _ moment => moment.record? = some (some message))
        (fun _ moment => moment.record?.isSome = true) history := by
  induction history using List.reverseRecOn with
  | nil => exact iff_of_false nofun not_lasts_nil
  | append_singleton past moment ih =>
      rw [shownError_concat, lasts_concat, ← ih]
      cases moment.record? with
      | none => simp
      | some record => simp

theorem Moment.due?_of_deselects {moment : Moment} (deselects : moment.deselects = true) :
    moment.due? = some none := by
  unfold Moment.deselects at deselects
  split at deselects
  · rfl
  · cases deselects

/-- As long as a history is stale, an error is shown and none is due; otherwise the one that is
shown is due. -/
theorem dueError_of_stale (history : List Moment) :
    (Stale history → (shownError history).isSome = true ∧ dueError history = none) ∧
      (¬ Stale history → shownError history = dueError history) := by
  induction history using List.reverseRecOn with
  | nil => exact ⟨fun stale => absurd stale not_lasts_nil, fun _ => rfl⟩
  | append_singleton past moment ih =>
      rw [shownError_concat, dueError_concat, stale_concat]
      cases deselects : moment.deselects with
      | true =>
          -- The deselect records nothing where clearing is due.
          have kept : moment.record? = none := if_pos deselects
          rw [kept, Moment.due?_of_deselects deselects]
          cases shown : shownError past with
          | some message => simp
          | none =>
              have fresh : ¬ Stale past := fun stale => by simpa [shown] using (ih.1 stale).1
              simp [fresh]
      | false =>
          have same : moment.record? = moment.due? := if_neg (by simp [deselects])
          rw [← same]
          cases moment.record? with
          | none => simpa [deselects] using ih
          | some record => simp

/-! ## The error after a turn -/

namespace Core

@[simp] theorem lastError_release (core : Core) (action : Action) :
    (core.release action).session.value.lastError = core.session.value.lastError := by
  cases action <;> rfl

/-- A command that is refused about the session is one of the session, and was not turned away. -/
theorem Refuses.record {core : Core} {command : Command} {error : ActionError}
    (refuses : core.Refuses command error) :
    (Moment.ended command (.error error)).record? = some (some error.message) := by
  cases refuses with
  | creation => rfl
  | @finalization command _ _ asks => cases command <;> first | rfl | cases asks
  | switch => rfl
  | target => rfl

theorem record_ofFailure {pending : Pending} {answer : pending.call.Answer}
    (lifecycle : pending.action.isLifecycle = true) (operation : Gateway.Operation)
    (failure : Gateway.Failure) :
    (Moment.answered pending answer (.error (.ofFailure operation failure))).record? =
      some (some (ActionError.ofFailure operation failure).message) := by
  show (if pending.action.isLifecycle then _ else none) = _
  rw [if_pos lifecycle]
  cases failure <;> rfl

theorem replays_lastError :
    Replays (fun core => core.session.value.lastError)
      (fun shown moment => moment.record?.getD shown) where
  ended := by
    intro core after command result started
    cases started with
    | turnedAway => cases command <;> rfl
    | refused _ refuses =>
        rw [refuses.record, lastError_release]
        rfl
    | offerRefused => exact lastError_release _ _
    | deselected free =>
        -- A deselect is no record, for it touches nothing but the phase.
        rw [session_deselect free]
        split <;> rfl
    | schemaKept => exact lastError_release _ _
  called started := by cases started <;> rfl
  answered settled := by
    cases settled with
    | creationFailed =>
        rw [record_ofFailure rfl]
        rfl
    | finalizationFailed =>
        rw [record_ofFailure rfl]
        rfl
    | switched known =>
        simp only [Core.switched, known]
        rfl
    | vanished unknown =>
        obtain ⟨-, -, rfl⟩ := Registry.setActive_eq_error_iff.mp unknown
        simp only [Core.switched, unknown]
        rfl
    | switchFailed =>
        rw [record_ofFailure rfl]
        rfl
    | _ => rfl
  dropped core pending := lastError_release core pending.action
  pushedRegistry _ _ := rfl
  pushedChat core messages := by
    rw [session_pushChat]
    rfl

end Core

/-! ## The main statement -/

/-- The moment at which an action is over decides on the error alone. -/
theorem Client.lastError_of_ending {client : Client} {step : Step} {moment : Moment}
    (numbered : client.Numbered) (mem : moment ∈ client.moments step)
    (ends : moment.ending?.isSome = true) :
    (client.step step).1.core.session.value.lastError =
      moment.record?.getD client.core.session.value.lastError :=
  Core.replays_lastError.of_mem (fun _ _ => rfl) numbered mem (by rintro pending rfl; cases ends)

theorem Moment.over_of_due {moment : Moment} {record : Option String}
    (due : moment.due? = some record) : moment.ending?.isSome = true := by
  unfold due? at due
  split at due
  · next ending => rw [ending]; rfl
  · cases due

theorem Moment.over_of_deselects {moment : Moment} (deselects : moment.deselects = true) :
    moment.ending?.isSome = true :=
  over_of_due (due?_of_deselects deselects)

theorem Moment.record?_of_not_due {moment : Moment} (nothing : moment.due? = none) :
    moment.record? = none := by
  rw [record?, nothing, ite_self]

theorem foldl_record?_of_not_due {moments : List Moment} (shown : Option String)
    (nothing : ∀ moment ∈ moments, moment.due? = none) :
    moments.foldl (fun shown moment => moment.record?.getD shown) shown = shown := by
  induction moments with
  | nil => rfl
  | cons moment moments ih =>
      rw [List.foldl_cons, Moment.record?_of_not_due (nothing moment List.mem_cons_self)]
      exact ih fun other mem => nothing other (List.mem_cons_of_mem _ mem)

/-- What the error says that a client shows, where `history` is what has happened so far. -/
structure Client.ShowsLastError (client : Client) (history : List Moment) : Prop where
  /-- It is the latest that was recorded. -/
  latest : ∀ message, client.core.session.value.lastError = some message ↔
    Lasts (fun _ moment => moment.record? = some (some message))
      (fun _ moment => moment.record?.isSome = true) history
  /-- An action of the session that is over leaves what is due, if it is no deselect. -/
  ended : ∀ step, ∀ moment ∈ client.moments step, moment.deselects = false →
    ∀ record, moment.due? = some record →
      (client.step step).1.core.session.value.lastError = record
  /-- A deselect leaves the error that is there. -/
  deselected : ∀ step, ∀ moment ∈ client.moments step, moment.deselects = true →
    (client.step step).1.core.session.value.lastError = client.core.session.value.lastError
  /-- So does a step in which no action of the session is over, or one is turned away. -/
  otherwise : ∀ step, (∀ moment ∈ client.moments step, moment.due? = none) →
    (client.step step).1.core.session.value.lastError = client.core.session.value.lastError
  /-- So the error that is shown is not due exactly if a deselect has left it there. -/
  due : client.core.session.value.lastError = dueError history ↔ ¬ Stale history

/-- **The last error.** In every state of every run the error that is shown is the record of the
action of the session that was over last, except in one case: a deselect was done while an error was
shown, and no other action has been over since. -/
theorem last_error_due_iff_not_stale {config : Config} {client : Client}
    (new : Client.new config = .ok client) (steps : List Client.Step) :
    (client.run steps).ShowsLastError (client.history steps) := by
  have runs := Client.inRun_of_new new steps
  have shown : (client.run steps).core.session.value.lastError =
      shownError (client.history steps) :=
    Core.replays_lastError.of_moves runs.reached
  refine ⟨?_, ?_, ?_, ?_, ?_⟩
  · intro message
    rw [shown]
    exact shownError_eq_some_iff _ message
  · intro step moment mem other record due
    have recorded : moment.record? = moment.due? := if_neg (by simp [other])
    rw [Client.lastError_of_ending runs.numbered mem (Moment.over_of_due due), recorded, due]
    rfl
  · intro step moment mem deselects
    have kept : moment.record? = none := if_pos deselects
    rw [Client.lastError_of_ending runs.numbered mem (Moment.over_of_deselects deselects), kept]
    rfl
  · intro step nothing
    have replayed := Core.replays_lastError.of_step runs.numbered step
    exact replayed.trans (foldl_record?_of_not_due _ nothing)
  · rw [shown]
    have stale := dueError_of_stale (client.history steps)
    -- In a stale history an error is shown, and none is due.
    refine ⟨fun same now => ?_, stale.2⟩
    obtain ⟨shown, nothing⟩ := stale.1 now
    rw [same, nothing] at shown
    cases shown

def deselectingSteps : List Client.Step := [.finalize .silent, .switch "" .silent]

/-- The deselect is done, and the error is still shown. -/
theorem error_outlives_deselect :
    ((Client.fresh {}).reports deselectingSteps).map Client.Report.outcome =
      [.completed (.error (.validation (.notAwaitingFinalization "idle"))),
        .completed (.ok .done)] ∧
    ((Client.fresh {}).run deselectingSteps).core.session.value.lastError =
      some "invalid input: cannot finalize while idle" :=
  ⟨rfl, rfl⟩

theorem stale_after_deselectingSteps : Stale ((Client.fresh {}).history deselectingSteps) := by
  have shows := last_error_due_iff_not_stale Client.new_default deselectingSteps
  by_contra fresh
  have due : some "invalid input: cannot finalize while idle" = none := shows.due.mpr fresh
  cases due

end GameClient
