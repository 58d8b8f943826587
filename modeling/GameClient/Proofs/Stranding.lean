import GameClient.Proofs.Exclusion

/-!
# Phases and the calls behind them

The phases `creating` and `finalizing` stand for a call that is in flight. This file says how far
that is so in runs in which no future is dropped.

`creating` keeps its promise: the session is in it only while a create or join is under way.
`finalizing` does not. A create that begins while a game is being finalized remembers `finalizing`
as the phase to come back to. If the finalize fails first, it finds the phase `creating` and leaves
it; if the create then fails too, it brings `finalizing` back, and no call is left that could end
it.

`Stranded` says this of a history. That nothing else leads there is the main statement,
`finalizing_without_call_iff_stranded`.

The invariant is `Account`. Its last field speaks about the create or join that is under way: what
phase it would bring back, and whether the history is stranded already.
-/

namespace GameClient

def Moment.FailsToFinalize : Moment → Prop
  | answered (.finalization _) (.error _) _ => True
  | _ => False

/-- A finalize failed while a create or join was under way that had begun in the phase `finalizing`,
and no create or join has succeeded since. -/
def Stranded (history : List Moment) : Prop :=
  Lasts (fun before moment =>
      moment.FailsToFinalize ∧ ∃ request, Open before (.creation request .finalizing))
    (fun _ => Moment.Creates) history

theorem stranded_concat {past : List Moment} {moment : Moment} :
    Stranded (past ++ [moment]) ↔
      (moment.FailsToFinalize ∧ ∃ request, Open past (.creation request .finalizing)) ∨
      Stranded past ∧ ¬ moment.Creates :=
  lasts_concat

/-- A moment at which neither a finalize fails nor a create or join succeeds makes no difference. -/
theorem stranded_concat_of_other {past : List Moment} {moment : Moment}
    (failsNot : ¬ moment.FailsToFinalize) (createsNot : ¬ moment.Creates) :
    Stranded (past ++ [moment]) ↔ Stranded past := by
  rw [stranded_concat]
  tauto

theorem not_stranded_of_creates {past : List Moment} {moment : Moment}
    (failsNot : ¬ moment.FailsToFinalize) (creates : moment.Creates) :
    ¬ Stranded (past ++ [moment]) := by
  rw [stranded_concat]
  tauto

/-- What the phase says about the calls in flight, and the create or join in flight about the
phase. -/
structure Account (past : List Moment) (core : Core) (waiting : List Pending) : Prop where
  creating : core.session.value.phase = .creating → core.held .createOrJoin = true
  finalizing : core.session.value.phase = .finalizing ∧ core.held .finalize = false ↔
    Stranded past ∧ core.held .createOrJoin = false
  /-- It never brings back `creating`; -/
  prior : ∀ request prior, .creation request prior ∈ waiting → prior ≠ .creating
  /-- while it is under way the phase is its own, or a success has moved it on; -/
  phase : ∀ request prior, .creation request prior ∈ waiting →
    core.session.value.phase = .creating ∨ core.session.value.phase.canSwitch = true
  /-- only the success of a finalize does that; -/
  overlap : ∀ request prior, .creation request prior ∈ waiting → core.held .finalize = true →
    core.session.value.phase = .creating
  /-- and what it would bring back is stranded exactly if the history is. -/
  stranded : ∀ request prior, .creation request prior ∈ waiting →
    (Stranded past ↔ core.session.value.phase = .creating ∧ prior = .finalizing ∧
      core.held .finalize = false)

namespace Account

variable {past : List Moment} {core after : Core} {waiting rest : List Pending} {moment : Moment}

/-- A moment that leaves the two calls as they are, and the phase but for `idle` and `active`, keeps
the account. -/
theorem keep (account : Account past core waiting) (keeps : core.KeepsPhase after)
    (creation : after.held .createOrJoin = core.held .createOrJoin)
    (finalization : after.held .finalize = core.held .finalize)
    (stranded : Stranded (past ++ [moment]) ↔ Stranded past)
    (fewer : ∀ request prior, .creation request prior ∈ rest → .creation request prior ∈ waiting) :
    Account (past ++ [moment]) after rest := by
  -- `creating` and `finalizing` are none of the phases between which it may move.
  have steady : ∀ phase : Session.Phase, phase.canSwitch = false →
      (after.session.value.phase = phase ↔ core.session.value.phase = phase) := by
    intro phase fixed
    rcases keeps with same | ⟨before, now⟩
    · rw [same]
    · constructor
      · rintro rfl
        rw [fixed] at now
        cases now
      · rintro rfl
        rw [fixed] at before
        cases before
  have creating := steady .creating rfl
  have finalizing := steady .finalizing rfl
  refine ⟨?_, ?_, ?_, ?_, ?_, ?_⟩
  · rw [creating, creation]
    exact account.creating
  · rw [finalizing, creation, finalization, stranded]
    exact account.finalizing
  · intro request prior mem
    exact account.prior request prior (fewer request prior mem)
  · intro request prior mem
    rcases account.phase request prior (fewer request prior mem) with own | moved
    · exact .inl (creating.mpr own)
    · rcases keeps with same | ⟨-, now⟩
      · rw [same]
        exact .inr moved
      · exact .inr now
  · intro request prior mem
    rw [creating, finalization]
    exact account.overlap request prior (fewer request prior mem)
  · intro request prior mem
    rw [creating, finalization, stranded]
    exact account.stranded request prior (fewer request prior mem)

/-- With no create or join under way there is nothing more to say. -/
theorem of_free (creating : after.session.value.phase ≠ .creating)
    (finalizing : after.session.value.phase = .finalizing ∧ after.held .finalize = false ↔
      Stranded past)
    (free : after.held .createOrJoin = false)
    (none : ∀ request prior, .creation request prior ∉ rest) : Account past after rest where
  creating own := absurd own creating
  finalizing := by rw [finalizing, free]; simp
  prior _ _ mem := absurd mem (none _ _)
  phase _ _ mem := absurd mem (none _ _)
  overlap _ _ mem := absurd mem (none _ _)
  stranded _ _ mem := absurd mem (none _ _)

variable {earlier later : List Pending} {request : Session.CreationRequest} {prior : Session.Phase}

/-- While no create or join is under way, nothing is stranded unless the phase is `finalizing`. -/
theorem not_stranded (account : Account past core waiting) (free : core.held .createOrJoin = false)
    (other : core.session.value.phase ≠ .finalizing) : ¬ Stranded past := by
  intro stranded
  exact other (account.finalizing.mpr ⟨stranded, free⟩).1

/-- While a create or join is under way the phase is not `awaitingFinalization`. -/
theorem free_of_awaiting (account : Account past core waiting) (agree : Agreement core waiting)
    (awaiting : core.session.value.phase = .awaitingFinalization) :
    core.held .createOrJoin = false := by
  cases taken : core.held .createOrJoin with
  | false => rfl
  | true =>
      obtain ⟨pending, mem, same⟩ := agree.exists_of_held taken
      cases pending with
      | creation request prior =>
          rcases account.phase request prior mem with own | moved
          · rw [awaiting] at own
            cases own
          · rw [awaiting] at moved
            cases moved
      | _ => cases same

theorem called_creation (account : Account past core waiting) (agree : Agreement core waiting)
    {command : Command}
    (started : core.Started command after (.suspended (.creation request prior))) :
    Account (past ++ [.called (.creation request prior)]) after
      (waiting ++ [.creation request prior]) := by
  have free : core.held .createOrJoin = false := started.free_of_suspended
  have creation : after.held .createOrJoin = true := by
    rw [started.held_of_suspended]
    rfl
  have finalization : after.held .finalize = core.held .finalize := by
    rw [started.held_of_suspended]
    rfl
  have same : Stranded (past ++ [.called (.creation request prior)]) ↔ Stranded past :=
    stranded_concat_of_other id id
  -- Before the call no create or join was under way, so all that waits is the new one.
  have only : ∀ request' prior', .creation request' prior' ∈ waiting ++ [.creation request prior] →
      prior' = prior := by
    intro request' prior' mem
    rcases List.mem_append.mp mem with old | new
    · exact (agree.other_of_free free old rfl).elim
    · exact (Pending.creation.inj (List.mem_singleton.mp new)).2
  have phase : after.session.value.phase = .creating ∧ prior = core.session.value.phase := by
    cases started with
    | creating => exact ⟨rfl, rfl⟩
  obtain ⟨phase, rfl⟩ := phase
  refine ⟨?_, ?_, ?_, ?_, ?_, ?_⟩
  · exact fun _ => creation
  · rw [phase, creation]
    simp
  · intro request' prior' mem
    rw [only request' prior' mem]
    intro own
    rw [account.creating own] at free
    cases free
  · exact fun _ _ _ => .inl phase
  · exact fun _ _ _ _ => phase
  · intro request' prior' mem
    have stranded := account.finalizing
    rw [only request' prior' mem, same, phase, finalization]
    rw [free] at stranded
    simpa using stranded.symm

theorem called_finalization (account : Account past core waiting) (agree : Agreement core waiting)
    {command : Command} {params : Session.FinalizationParams}
    (started : core.Started command after (.suspended (.finalization params))) :
    Account (past ++ [.called (.finalization params)]) after
      (waiting ++ [.finalization params]) := by
  have phases : core.session.value.phase = .awaitingFinalization ∧
      after.session.value.phase = .finalizing := by
    cases started with
    | finalizing _ _ fit => exact ⟨Core.phase_of_paramsFor fit, rfl⟩
  obtain ⟨awaiting, phase⟩ := phases
  -- A game waits to be finalized only while no create or join is under way.
  have free := account.free_of_awaiting agree awaiting
  have creation : after.held .createOrJoin = false := by
    rw [started.held_of_suspended, free]
    rfl
  have finalization : after.held .finalize = true := by
    rw [started.held_of_suspended]
    rfl
  have same : Stranded (past ++ [.called (.finalization params)]) ↔ Stranded past :=
    stranded_concat_of_other id id
  apply of_free
  · rw [phase]
    simp
  · rw [same, finalization]
    have not := account.not_stranded free (by rw [awaiting]; simp)
    simp [not]
  · exact creation
  · intro request prior mem
    rcases List.mem_append.mp mem with old | new
    · exact (agree.other_of_free free old rfl).elim
    · cases List.mem_singleton.mp new

theorem answered_creation
    (account : Account past core (earlier ++ .creation request prior :: later))
    (agree : Agreement core (earlier ++ .creation request prior :: later))
    {answer : (Pending.creation request prior).call.Answer} {result : Result}
    (settled : core.Settled (.creation request prior) answer after result) :
    Account (past ++ [.answered (.creation request prior) answer result]) after
      (earlier ++ later) := by
  have free : after.held .createOrJoin = false := by
    rw [settled.held]
    rfl
  have finalization : after.held .finalize = core.held .finalize := by
    rw [settled.held]
    rfl
  have none : ∀ request' prior', .creation request' prior' ∉ earlier ++ later :=
    fun _ _ mem => ((agree.mem_others _).mp mem).2 rfl
  have waits : .creation request prior ∈ earlier ++ Pending.creation request prior :: later := by
    simp
  refine of_free ?_ ?_ free none
  · cases settled with
    | created => exact nofun
    | joined => exact nofun
    | creationFailed _ =>
        rw [Core.phase_creationFailed]
        split
        · exact account.prior request prior waits
        · next moved => exact moved
  · rw [finalization]
    cases settled with
    | created => exact iff_of_false nofun (not_stranded_of_creates id trivial)
    | joined => exact iff_of_false nofun (not_stranded_of_creates id trivial)
    | creationFailed _ =>
        rw [stranded_concat_of_other id id, account.stranded request prior waits,
          Core.phase_creationFailed]
        split
        · next own => simp [own]
        · -- The phase has moved on, so nothing is brought back and nothing was stranded.
          next moved =>
            rcases account.phase request prior waits with own | fit
            · exact absurd own moved
            · refine iff_of_false ?_ fun own => moved own.1
              rintro ⟨finalizing, -⟩
              rw [finalizing] at fit
              cases fit

/-- A finalize that is over leaves the create or join alone, and may strand it. -/
theorem answered_finalization {params : Session.FinalizationParams}
    (account : Account past core (earlier ++ .finalization params :: later))
    (agree : Agreement core (earlier ++ .finalization params :: later))
    (opens : ∀ pending, pending ∈ earlier ++ .finalization params :: later ↔ Open past pending)
    {answer : (Pending.finalization params).call.Answer} {result : Result}
    (settled : core.Settled (.finalization params) answer after result) :
    Account (past ++ [.answered (.finalization params) answer result]) after
      (earlier ++ later) := by
  have taken : core.held .finalize = true := agree.held_of_split
  have finalization : after.held .finalize = false := by
    rw [settled.held]
    rfl
  have creation : after.held .createOrJoin = core.held .createOrJoin := by
    rw [settled.held]
    rfl
  have mem_before : ∀ request prior, .creation request prior ∈ earlier ++ later →
      .creation request prior ∈ earlier ++ Pending.finalization params :: later :=
    fun _ _ mem => ((agree.mem_others _).mp mem).1
  -- While the finalize was in flight nothing was stranded.
  have notBefore : core.held .createOrJoin = false → ¬ Stranded past := by
    intro free stranded
    have own := (account.finalizing.mpr ⟨stranded, free⟩).2
    rw [taken] at own
    cases own
  have notUnder : ∀ request prior, .creation request prior ∈ earlier ++ later →
      ¬ Stranded past := by
    intro request prior mem stranded
    have own := ((account.stranded request prior (mem_before request prior mem)).mp stranded).2.2
    rw [taken] at own
    cases own
  cases settled with
  | finalized =>
      have same : Stranded (past ++ [.answered (.finalization params) (.ok ()) (.ok .done)]) ↔
          Stranded past := stranded_concat_of_other id id
      refine ⟨nofun, ?_, ?_, ?_, ?_, ?_⟩
      · rw [same, creation]
        exact iff_of_false nofun fun ⟨stranded, free⟩ => notBefore free stranded
      · exact fun request prior mem => account.prior request prior (mem_before request prior mem)
      · exact fun _ _ _ => .inr rfl
      · intro request prior mem still
        rw [finalization] at still
        cases still
      · intro request prior mem
        rw [same]
        exact iff_of_false (notUnder request prior mem) nofun
  | finalizationFailed =>
      refine ⟨?_, ?_, ?_, ?_, ?_, ?_⟩
      · rw [creation, Core.phase_finalizationFailed]
        split
        · exact nofun
        · exact account.creating
      · -- The failure leaves no phase `finalizing`, and strands only what is under way.
        rw [stranded_concat, creation, Core.phase_finalizationFailed]
        refine iff_of_false ?_ ?_
        · split
          · exact nofun
          · next other => exact fun own => other own.1
        · rintro ⟨⟨-, request, began⟩ | ⟨stranded, -⟩, free⟩
          · exact agree.other_of_free free ((opens _).mpr began) rfl
          · exact notBefore free stranded
      · exact fun request prior mem => account.prior request prior (mem_before request prior mem)
      · intro request prior mem
        have own := account.overlap request prior (mem_before request prior mem) taken
        rw [Core.phase_finalizationFailed, own]
        exact .inl rfl
      · intro request prior mem still
        rw [finalization] at still
        cases still
      · -- This is where a history becomes stranded: the failure finds the phase `creating`.
        intro request prior mem
        have waits := mem_before request prior mem
        have own := account.overlap request prior waits taken
        rw [stranded_concat, Core.phase_finalizationFailed, own, finalization]
        constructor
        · rintro (⟨-, request', began⟩ | ⟨stranded, -⟩)
          · have same := agree.unique waits ((opens _).mpr began) rfl
            exact ⟨rfl, (Pending.creation.inj same).2.symm, rfl⟩
          · exact absurd stranded (notUnder request prior mem)
        · rintro ⟨-, rfl, -⟩
          exact .inl ⟨trivial, request, (opens _).mp waits⟩

end Account

theorem Account.called_other {past : List Moment} {core after : Core} {waiting : List Pending}
    {command : Command} {pending : Pending} (account : Account past core waiting)
    (started : core.Started command after (.suspended pending))
    (createsNot : pending.action ≠ .createOrJoin) (finalizesNot : pending.action ≠ .finalize) :
    Account (past ++ [.called pending]) after (waiting ++ [pending]) := by
  apply account.keep (started.keepsPhase_of_suspended createsNot finalizesNot)
  · rw [started.held_of_suspended, if_neg createsNot]
  · rw [started.held_of_suspended, if_neg finalizesNot]
  · exact stranded_concat_of_other id id
  · exact fun _ _ mem => mem_of_mem_concat mem createsNot

theorem Account.answered_other {past : List Moment} {core after : Core}
    {earlier later : List Pending} {pending : Pending} {answer : pending.call.Answer}
    {result : Result} (account : Account past core (earlier ++ pending :: later))
    (settled : core.Settled pending answer after result)
    (createsNot : pending.action ≠ .createOrJoin) (finalizesNot : pending.action ≠ .finalize) :
    Account (past ++ [.answered pending answer result]) after (earlier ++ later) := by
  apply account.keep (settled.keepsPhase createsNot finalizesNot)
  · rw [settled.held, if_neg createsNot]
  · rw [settled.held, if_neg finalizesNot]
  · apply stranded_concat_of_other
    · cases settled <;> first | exact id | exact absurd rfl finalizesNot
    · cases settled <;> first | exact id | exact absurd rfl createsNot
  · exact fun _ _ => mem_split_of_mem_others

theorem account_of_reached {config : Config} {past : List Moment} {core : Core}
    {waiting : List Pending} (reached : Reached config past core waiting)
    (undropped : ∀ pending, .dropped pending ∉ past) : Account past core waiting := by
  induction reached with
  | start =>
      exact Account.of_free nofun (iff_of_false nofun not_lasts_nil) rfl
        fun _ _ => List.not_mem_nil
  | ended before started ih =>
      have account := ih fun pending mem => undropped pending (List.mem_append_left _ mem)
      exact account.keep started.keepsPhase_of_finished (started.held_of_finished _)
        (started.held_of_finished _) (stranded_concat_of_other id id) fun _ _ mem => mem
  | @called _ _ _ _ _ pending before started ih =>
      have account := ih fun pending mem => undropped pending (List.mem_append_left _ mem)
      have agree := agreement_of_reached before
      -- Only what creates or finalizes touches the phases that the account is about.
      cases pending with
      | creation request prior => exact account.called_creation agree started
      | finalization params => exact account.called_finalization agree started
      | _ => exact account.called_other started nofun nofun
  | @answered _ _ _ _ _ pending answer _ before settled ih =>
      have account := ih fun pending mem => undropped pending (List.mem_append_left _ mem)
      have agree := agreement_of_reached before
      cases pending with
      | creation request prior => exact account.answered_creation agree settled
      | finalization params =>
          exact account.answered_finalization agree (mem_waiting_iff_open before) settled
      | _ => exact account.answered_other settled nofun nofun
  | dropped _ _ =>
      exact absurd (List.mem_append_right _ (List.mem_singleton.mpr rfl)) (undropped _)
  | pushedRegistry _ ih =>
      have account := ih fun pending mem => undropped pending (List.mem_append_left _ mem)
      exact account.keep (.inl rfl) rfl rfl (stranded_concat_of_other id id) fun _ _ mem => mem
  | @pushedChat _ core _ messages _ ih =>
      have account := ih fun pending mem => undropped pending (List.mem_append_left _ mem)
      have same : core.KeepsPhase (core.pushChat messages).core := by
        refine .inl ?_
        rw [Core.session_pushChat]
      exact account.keep same (core.held_pushChat _ _) (core.held_pushChat _ _)
        (stranded_concat_of_other id id) fun _ _ mem => mem

/-! ## The main statement -/

/-- How far the phase of a client stands for a call in flight, where `history` is what has happened
so far. -/
structure Client.Backed (client : Client) (history : List Moment) : Prop where
  creating : client.core.session.value.phase = .creating → client.outstanding .createOrJoin ≠ []
  /-- The phase `finalizing` outlives the finalize exactly in a stranded history. -/
  finalizing : client.core.session.value.phase = .finalizing ∧ client.outstanding .finalize = [] ↔
    Stranded history ∧ client.outstanding .createOrJoin = []
  /-- With no call in flight the user can leave the phase, unless the history is stranded. -/
  settled : client.outstanding .createOrJoin = [] → client.outstanding .finalize = [] →
    (client.core.session.value.phase ∈ [.idle, .awaitingFinalization, .active] ↔ ¬ Stranded history)

/-- **Stranding.** In a run in which no future is dropped the phase `creating` stands for a create
or join in flight. The phase `finalizing` stands for a finalize in flight, except in one case: the
finalize failed while a create or join was under way that had begun during it, and that one has not
succeeded, nor has any since. -/
theorem finalizing_without_call_iff_stranded {config : Config} {client : Client}
    (new : Client.new config = .ok client) (steps : List Client.Step)
    (undropped : ∀ pending, .dropped pending ∉ client.history steps) :
    (client.run steps).Backed (client.history steps) := by
  have reached := Client.reached new steps
  have agree := agreement_of_reached reached
  have account := account_of_reached reached undropped
  have free := Client.outstanding_eq_nil_iff agree
  refine ⟨?_, ?_, ?_⟩
  · intro own none
    rw [free, account.creating own] at none
    cases none
  · rw [free, free]
    exact account.finalizing
  · intro noCreation noFinalization
    rw [free] at noCreation noFinalization
    have stranded := account.finalizing
    rw [noCreation, noFinalization] at stranded
    have notCreating : (client.run steps).core.session.value.phase ≠ .creating := by
      intro own
      rw [account.creating own] at noCreation
      cases noCreation
    have other : (client.run steps).core.session.value.phase = .finalizing ↔
        Stranded (client.history steps) := by simpa using stranded
    rw [← other]
    cases phase : (client.run steps).core.session.value.phase with
    | creating => exact absurd phase notCreating
    | _ => decide

/-- A create begins while a game is finalized; the finalize fails first, then the create. -/
def strandingSteps : List Client.Step :=
  [.create .willing, .finalize .silent, .create .silent, .poll 0 .offline, .poll 1 .offline]

/-- No future is dropped and no call is in flight, and still the phase is `finalizing`. -/
theorem finalizing_outlives_its_call :
    (∀ number, .drop number ∉ strandingSteps) ∧
    ((Client.fresh {}).run strandingSteps).waiting = [] ∧
    ((Client.fresh {}).run strandingSteps).core.session.value.phase = .finalizing :=
  ⟨by simp [strandingSteps, Client.Step.create, Client.Step.finalize], rfl, rfl⟩

theorem stranded_after_strandingSteps : Stranded ((Client.fresh {}).history strandingSteps) := by
  have undropped : ∀ number, .drop number ∉ strandingSteps := by
    simp [strandingSteps, Client.Step.create, Client.Step.finalize]
  have backed := finalizing_without_call_iff_stranded Client.new_default strandingSteps
    (Client.dropped_not_mem_history undropped)
  exact (backed.finalizing.mp ⟨rfl, rfl⟩).1

end GameClient
