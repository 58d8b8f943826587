import GameClient.Proofs.AllowedCalls
import GameClient.Proofs.Ownership

/-!
# The form is fetched once

A load looks for the form before its call and puts it there after the answer. In between other
loads may be started, dropped or answered, and still none of them fetches the form a second time:
while one load waits for its call, its latch turns the others away. So there is no form as long as
one is being fetched (`missing_of_loading`), and the forms that a history has brought are the one
that is there, if any (`forms_of_reached`).

Once a load has given a form, this form stays, and every later load gives it at once. The main
statement is `form_is_loaded_once`.
-/

namespace GameClient

/-! ## The form that is there -/

theorem Purchase.schema_withFlag (purchase : Purchase) (shown : Bool) (action : Action) :
    (purchase.withFlag shown action).schema = purchase.schema := by
  cases action <;> rfl

theorem Pending.eq_schemaLoad {pending : Pending} (loads : pending.action = .loadPurchaseSchema) :
    pending = .schemaLoad := by
  cases pending with
  | schemaLoad => rfl
  | _ => cases loads

namespace Moment

/-- The form that a moment brings from the backend. -/
def form? : Moment → Option PurchaseSchema
  | answered .schemaLoad (.ok schema) _ => some schema
  | _ => none

/-- Only answers change of the form what does not tell whether an action is under way. -/
theorem view_purchaseAfter {β : Type} (view : Purchase → β)
    (flagless : ∀ purchase shown action, view (purchase.withFlag shown action) = view purchase)
    (purchase : Purchase) {moment : Moment}
    (silent : ∀ pending answer result, moment ≠ .answered pending answer result) :
    view (moment.purchaseAfter purchase) = view purchase := by
  cases moment with
  | ended command result =>
      show view (if Core.isTurnedAway result then purchase
        else purchase.withFlag false command.action) = view purchase
      split
      · rfl
      · exact flagless purchase _ _
  | called pending => exact flagless purchase _ _
  | answered pending answer result => exact absurd rfl (silent pending answer result)
  | dropped pending => exact flagless purchase _ _
  | pushedRegistry snapshot => rfl
  | pushedChat messages => rfl

theorem schema_purchaseAfter (purchase : Purchase) (moment : Moment) :
    (moment.purchaseAfter purchase).schema = moment.form?.or purchase.schema := by
  cases moment with
  | answered pending answer result =>
      cases pending with
      | schemaLoad => cases answer <;> rfl
      | offering offer => cases answer <;> rfl
      | _ => rfl
  | _ => exact view_purchaseAfter Purchase.schema Purchase.schema_withFlag purchase (by simp)

theorem eq_answered_of_form {moment : Moment} {schema : PurchaseSchema}
    (brings : moment.form? = some schema) :
    ∃ result, moment = .answered .schemaLoad (.ok schema) result := by
  unfold form? at brings
  split at brings
  · obtain rfl := Option.some.inj brings
    exact ⟨_, rfl⟩
  · cases brings

end Moment

namespace Core

theorem replays_form :
    Replays (fun core => core.purchase.value.schema)
      (fun schema moment => moment.form?.or schema) :=
  replays_purchase.map Moment.schema_purchaseAfter

variable {core after : Core} {command : Command}

/-- A load is only suspended if there is no form. -/
theorem Started.missing_of_schemaLoad
    (started : Started core command after (.suspended .schemaLoad)) :
    core.purchase.value.schema = none := by
  cases started with
  | loading _ missing => exact missing

theorem Started.schema_of_finished {schema : PurchaseSchema}
    (started : Started core command after (.finished (.ok (.schema schema)))) :
    after.purchase.value.schema = some schema := by
  cases started with
  | schemaKept _ kept => exact kept

/-- A load that fails at the backend leaves no form if there was none, and a free latch. -/
theorem Settled.missing_of_error {pending : Pending} {answer : pending.call.Answer}
    {error : ActionError} (settled : Settled core pending answer after (.error error))
    (loads : pending = .schemaLoad) (missing : core.purchase.value.schema = none) :
    after.purchase.value.schema = none ∧ after.held .loadPurchaseSchema = false := by
  subst loads
  refine ⟨?_, settled.held _⟩
  cases settled with
  | schemaLoadFailed => exact missing

theorem Settled.schema_of_ok {pending : Pending} {answer : pending.call.Answer}
    {schema : PurchaseSchema} (settled : Settled core pending answer after (.ok (.schema schema))) :
    after.purchase.value.schema = some schema := by
  cases settled with
  | schemaLoaded => rfl

end Core

/-! ## The form in a run -/

section Reached

variable {config : Config} {past : List Moment} {core : Core} {waiting : List Pending}

/-- While the form is being fetched there is none. -/
theorem missing_of_loading (reached : Reached config past core waiting)
    (loading : .schemaLoad ∈ waiting) : core.purchase.value.schema = none := by
  induction reached with
  | start => cases loading
  | ended _ started ih => exact (Core.replays_form.ended started).trans (ih loading)
  | called _ started ih =>
      refine (Core.replays_form.called started).trans ?_
      rcases List.mem_append.mp loading with before | new
      · exact ih before
      · obtain rfl := List.mem_singleton.mp new
        exact started.missing_of_schemaLoad
  | @answered _ _ _ _ _ pending answer result before settled ih =>
      obtain ⟨waits, other⟩ := ((agreement_of_reached before).mem_others _).mp loading
      have none : (Moment.answered pending answer result).form? = none := by
        by_contra brings
        obtain ⟨schema, brings⟩ := Option.ne_none_iff_exists'.mp brings
        obtain ⟨_, same⟩ := Moment.eq_answered_of_form brings
        cases same
        exact other rfl
      rw [Core.replays_form.answered settled, none]
      exact ih waits
  | dropped _ ih =>
      exact (Core.replays_form.dropped _ _).trans (ih (mem_split_of_mem_others loading))
  | pushedRegistry _ ih => exact ih loading
  | pushedChat _ ih => exact (Core.replays_form.pushedChat _ _).trans (ih loading)

/-- The forms that a history has brought are the form that is there, if any. -/
theorem forms_of_reached (reached : Reached config past core waiting) :
    past.filterMap Moment.form? = core.purchase.value.schema.toList := by
  induction reached with
  | start => rfl
  | ended _ started ih =>
      rw [List.filterMap_append, ih, Core.replays_form.ended started]
      exact List.append_nil _
  | called _ started ih =>
      rw [List.filterMap_append, ih, Core.replays_form.called started]
      exact List.append_nil _
  | @answered _ _ _ _ _ pending answer result before settled ih =>
      rw [List.filterMap_append, ih, Core.replays_form.answered settled]
      cases brings : (Moment.answered pending answer result).form? with
      | none => rw [List.filterMap_cons_none brings]; exact List.append_nil _
      | some schema =>
          -- There was no form before, since one was being fetched.
          obtain ⟨_, same⟩ := Moment.eq_answered_of_form brings
          cases same
          rw [missing_of_loading before (by simp)]
          rfl
  | dropped _ ih =>
      rw [List.filterMap_append, ih, Core.replays_form.dropped]
      exact List.append_nil _
  | pushedRegistry _ ih =>
      rw [List.filterMap_append, ih, Core.replays_form.pushedRegistry]
      exact List.append_nil _
  | pushedChat _ ih =>
      rw [List.filterMap_append, ih, Core.replays_form.pushedChat]
      exact List.append_nil _

end Reached

namespace Client

variable {config : Config} {client : Client} {past : List Moment} {step : Step}
  {schema : PurchaseSchema}

/-- The latch of the loads is held exactly while the form is being fetched. -/
theorem InRun.free_iff_not_loading (runs : InRun config past client) :
    client.core.held .loadPurchaseSchema = false ↔ .schemaLoad ∉ client.waiting := by
  have agree := agreement_of_reached runs.reached
  constructor
  · intro free loading
    exact agree.other_of_free free loading rfl
  · intro notLoading
    by_contra taken
    obtain ⟨pending, waits, loads⟩ := agree.exists_of_held (Bool.not_eq_false _ ▸ taken)
    exact notLoading (Pending.eq_schemaLoad loads ▸ waits)

/-- The form is fetched exactly by a load that finds none, and no other load under way. -/
theorem issued_getPurchaseSchema_iff :
    (client.step step).2.issued = some .getPurchaseSchema ↔
      (∃ gateway, step = .start .loadSchema gateway) ∧
        client.core.held .loadPurchaseSchema = false ∧
          client.core.purchase.value.schema = none := by
  rw [issued_iff_allows]
  constructor
  · rintro ⟨command, gateway, rfl, free, allows⟩
    cases allows with
    | loading missing => exact ⟨⟨gateway, rfl⟩, free, missing⟩
  · rintro ⟨⟨gateway, rfl⟩, free, missing⟩
    exact ⟨_, gateway, rfl, free, .loading missing⟩

theorem schema_of_completed
    (completed : (client.step step).2.outcome = .completed (.ok (.schema schema))) :
    (client.step step).1.core.purchase.value.schema = some schema := by
  have stepped := client.stepped step
  rw [completed] at stepped
  generalize client.moments step = moments, (client.step step).1 = after at stepped
  cases stepped with
  | ended started => exact started.schema_of_finished
  | answeredAtOnce _ _ settled => exact settled.schema_of_ok
  | answered _ _ settled => exact settled.schema_of_ok

theorem outcome_of_answered {pending : Pending} {answer : pending.call.Answer} {result : Result}
    (mem : .answered pending answer result ∈ client.moments step) :
    (client.step step).2.outcome = .completed result := by
  have stepped := client.stepped step
  generalize client.moments step = moments, (client.step step).1 = after,
    (client.step step).2.outcome = outcome at *
  cases stepped with
  | answeredAtOnce =>
      simp only [List.mem_cons, reduceCtorEq, List.not_mem_nil, or_false, false_or] at mem
      cases mem
      rfl
  | answered =>
      cases List.mem_singleton.mp mem
      rfl
  | _ => simp at mem

/-- A form that comes from the backend is given by the load that fetched it. -/
theorem completed_of_form {moment : Moment} (mem : moment ∈ client.moments step)
    (brings : moment.form? = some schema) :
    (client.step step).2.outcome = .completed (.ok (.schema schema)) := by
  obtain ⟨result, rfl⟩ := Moment.eq_answered_of_form brings
  obtain ⟨core, settled, -⟩ := settled_of_answered mem
  rw [outcome_of_answered mem]
  generalize (client.step step).1.core = after at settled
  cases settled with
  | schemaLoaded => rfl

/-- A load gives a form in a step of the run. -/
def GivesForm (client : Client) (steps : List Step) (schema : PurchaseSchema) : Prop :=
  ∃ before step after, steps = before ++ step :: after ∧
    ((client.run before).step step).2.outcome = .completed (.ok (.schema schema))

theorem givesForm_of_schema (new : Client.new config = .ok client) {steps : List Step}
    (there : (client.run steps).core.purchase.value.schema = some schema) :
    client.GivesForm steps schema := by
  have brought : schema ∈ (client.history steps).filterMap Moment.form? := by
    rw [forms_of_reached (reached new steps), there]
    exact List.mem_singleton_self schema
  obtain ⟨moment, mem, brings⟩ := List.mem_filterMap.mp brought
  obtain ⟨before, step, after, split, happens⟩ := step_of_mem_history mem
  exact ⟨before, step, after, split, completed_of_form happens brings⟩

theorem InRun.schema_run (runs : InRun config past client)
    (there : client.core.purchase.value.schema = some schema) (steps : List Step) :
    (client.run steps).core.purchase.value.schema = some schema := by
  have before := forms_of_reached runs.reached
  have after := forms_of_reached (runs.append steps).reached
  -- The form has come before, and at most one comes at all.
  rw [List.filterMap_append, before, there] at after
  cases later : (client.run steps).core.purchase.value.schema with
  | none => simp [later] at after
  | some other =>
      rw [later] at after
      exact congrArg some (List.cons.inj after).1.symm

theorem InRun.completed_of_schema (runs : InRun config past client)
    (there : client.core.purchase.value.schema = some schema) (gateway : Gateway) :
    (client.step (.start .loadSchema gateway)).2.outcome = .completed (.ok (.schema schema)) := by
  have free : client.core.held .loadPurchaseSchema = false := by
    refine runs.free_iff_not_loading.mpr fun loading => ?_
    rw [missing_of_loading runs.reached loading] at there
    cases there
  apply outcome_of_finished
  have started := client.core.started .loadSchema
  generalize (client.core.start .loadSchema).core = after,
    (client.core.start .loadSchema).value = progress at started
  cases started with
  | turnedAway taken => exact absurd (taken.symm.trans free) nofun
  | refused _ refuses =>
      cases refuses with
      | finalization asks => cases asks
  | schemaKept _ kept => rw [Option.some.inj (kept.symm.trans there)]
  | finalizing _ asks => cases asks
  | loading _ missing => exact absurd (missing.symm.trans there) nofun

/-! ## Loads that are lost -/

/-- A load fails at the backend in a step, or is dropped. -/
def LosesLoad (client : Client) (step : Step) : Prop :=
  client.actionOf? step = some .loadPurchaseSchema ∧
    ((client.step step).2.outcome = .dropped ∨
      ∃ error, (client.step step).2.outcome = .completed (.error error) ∧
        error.category = .backend)

/-- A load that is lost was fetching the form, and leaves none and a free latch. -/
theorem InRun.missing_of_losesLoad (runs : InRun config past client)
    (loses : client.LosesLoad step) :
    (client.step step).1.core.purchase.value.schema = none ∧
      (client.step step).1.core.held .loadPurchaseSchema = false := by
  obtain ⟨loads, outcome⟩ := loses
  have missing {number : Nat} {task : Task} (found : client.task? number = some task)
      (loads : task.pending = .schemaLoad) : client.core.purchase.value.schema = none := by
    apply missing_of_loading runs.reached
    rw [← loads]
    exact List.mem_map_of_mem (mem_of_task? found)
  -- A load ends in four ways: before its call, where no error is of the backend; with an answer, at
  -- once or later; or dropped.
  have stepped := client.stepped step
  generalize client.moments step = moments, (client.step step).1 = after,
    (client.step step).2.outcome = outcome' at *
  cases stepped with
  | ended started =>
      rcases outcome with dropped | ⟨error, completed, backend⟩
      · cases dropped
      · obtain rfl := Outcome.completed.inj completed
        exact absurd backend started.category_of_finished
  | answeredAtOnce started _ settled =>
      rcases outcome with dropped | ⟨error, completed, -⟩
      · cases dropped
      · obtain rfl := Outcome.completed.inj completed
        have loads := Pending.eq_schemaLoad
          (started.action_of_suspended.trans (Option.some.inj loads))
        refine settled.missing_of_error loads ?_
        rw [Core.replays_form.called started]
        exact (loads ▸ started).missing_of_schemaLoad
  | answered found _ settled =>
      rcases outcome with dropped | ⟨error, completed, -⟩
      · cases dropped
      · obtain rfl := Outcome.completed.inj completed
        rw [actionOf?, found] at loads
        have loads := Pending.eq_schemaLoad (Option.some.inj loads)
        exact settled.missing_of_error loads (missing found loads)
  | dropped found =>
      rw [actionOf?, found] at loads
      have loads := Pending.eq_schemaLoad (Option.some.inj loads)
      refine ⟨(Core.replays_form.dropped _ _).trans (missing found loads), ?_⟩
      rw [loads]
      exact Core.held_release _ _ _
  | _ => simp at outcome

/-- Without a form a load fetches it, unless another one is doing so. -/
theorem InRun.issued_iff_of_missing (runs : InRun config past client)
    (missing : client.core.purchase.value.schema = none) (gateway : Gateway) :
    (client.step (.start .loadSchema gateway)).2.issued = some .getPurchaseSchema ↔
      client.outstanding .loadPurchaseSchema = [] := by
  rw [issued_getPurchaseSchema_iff, outstanding_eq_nil_iff (agreement_of_reached runs.reached)]
  exact ⟨fun fetches => fetches.2.1, fun free => ⟨⟨gateway, rfl⟩, free, missing⟩⟩

/-! ## The main statement -/

/-- The form is there to stay. -/
structure KeepsForm (client : Client) (schema : PurchaseSchema) : Prop where
  shown : client.core.purchase.value.schema = some schema
  ready : client.core.purchase.value.isReady = true
  silent : ∀ step, (client.step step).2.issued ≠ some .getPurchaseSchema
  /-- A load is over when it is started, and gives this form whatever the backend would say. -/
  given : ∀ gateway,
    (client.step (.start .loadSchema gateway)).2.outcome = .completed (.ok (.schema schema))

/-- There is no form, and a load fetches it unless another one is doing so. -/
structure LacksForm (client : Client) : Prop where
  hidden : client.core.purchase.value.schema = none
  fetched : ∀ gateway,
    (client.step (.start .loadSchema gateway)).2.issued = some .getPurchaseSchema ↔
      client.outstanding .loadPurchaseSchema = []

/-- How the form is loaded in a run. -/
structure LoadsFormOnce (client : Client) (steps : List Step) : Prop where
  kept : ∀ schema, client.GivesForm steps schema → (client.run steps).KeepsForm schema
  missing : (∀ schema, ¬ client.GivesForm steps schema) → (client.run steps).LacksForm
  /-- A load that is lost leaves no form, and nothing that keeps the next load from fetching it. -/
  lost : ∀ step, (client.run steps).LosesLoad step →
    let next := ((client.run steps).step step).1
    next.LacksForm ∧ next.outstanding .loadPurchaseSchema = []
  /-- At most one form that the backend has given is taken over. -/
  once : ((client.history steps).filterMap Moment.form?).length ≤ 1

theorem InRun.keepsForm (runs : InRun config past client)
    (there : client.core.purchase.value.schema = some schema) : client.KeepsForm schema where
  shown := there
  ready := Option.isSome_iff_exists.mpr ⟨schema, there⟩
  silent step fetches := by
    obtain ⟨-, -, missing⟩ := issued_getPurchaseSchema_iff.mp fetches
    exact absurd (missing.symm.trans there) nofun
  given := runs.completed_of_schema there

theorem InRun.lacksForm (runs : InRun config past client)
    (missing : client.core.purchase.value.schema = none) : client.LacksForm :=
  ⟨missing, runs.issued_iff_of_missing missing⟩

end Client

/-- **Write-once form.** In every run the form is fetched until a load has given one. From then on
this form is there, every load gives it at once, and no step fetches another. -/
theorem form_is_loaded_once {config : Config} {client : Client}
    (new : Client.new config = .ok client) (steps : List Client.Step) :
    client.LoadsFormOnce steps := by
  have runs := Client.inRun_of_new new steps
  refine ⟨?_, fun none => ?_, fun step loses => ?_, ?_⟩
  · rintro schema ⟨before, step, after, rfl, completed⟩
    have given := (Client.inRun_of_new new before).concat step
    apply runs.keepsForm
    rw [Client.run_append]
    exact given.schema_run (Client.schema_of_completed completed) after
  · apply runs.lacksForm
    by_contra there
    obtain ⟨schema, there⟩ := Option.ne_none_iff_exists'.mp there
    exact none schema (Client.givesForm_of_schema new there)
  · obtain ⟨missing, free⟩ := runs.missing_of_losesLoad loses
    have next := runs.concat step
    exact ⟨next.lacksForm missing,
      (Client.outstanding_eq_nil_iff (agreement_of_reached next.reached) _).mpr free⟩
  · rw [forms_of_reached runs.reached]
    exact Option.length_toList_le

def Client.Step.load (gateway : Gateway) : Client.Step := .start .loadSchema gateway

/-- The first form stays when the backend has another one, after a load that failed and one that was
dropped. -/
theorem first_form_is_kept :
    let steps := [.load .offline, .load .silent, .drop 0, .load .willing]
    let other : Gateway := fun call => some (({ schema := ⟨.null⟩ } : Gateway.Scripted).answer call)
    (((Client.fresh {}).run steps).step (.load other)).2.outcome =
      .completed (.ok (.schema Gateway.anyObject)) := by
  intro steps other
  have once := form_is_loaded_once Client.new_default steps
  have gives : (Client.fresh {}).GivesForm steps Gateway.anyObject :=
    ⟨[.load .offline, .load .silent, .drop 0], .load .willing, [], rfl, rfl⟩
  exact (once.kept _ gives).given other

end GameClient
