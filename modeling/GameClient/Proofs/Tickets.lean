import GameClient.Proofs.Exclusion
import GameClient.Proofs.Replay

/-!
# The ticket that a finalize uses

A ticket is granted when a game is created, and the session holds it until it is used, or until
another game is created or joined. Which ticket is held is therefore told by the history alone
(`Core.replays_ticket`). Two things follow of it (`latest_and_unspent`): it is the latest that was
granted, and its game has not been finalized since.

A call to finalize is made with the ticket that is held, so the same is true of the calls. This is
the main statement, `finalize_uses_latest_ticket_once`.

The last section says what a phase tells about the ticket. There a create or join under way counts
for the phase that it would bring back.
-/

namespace GameClient

open Session (Ticket FinalizationParams)

/-! ## What happens to tickets -/

/-- A game is created, and this is its ticket. -/
def Moment.Grants (ticket : Ticket) : Moment → Prop
  | answered (.creation (.new _) _) (.ok granted) _ => granted = ticket
  | _ => False

/-- A game with this invite code is created. -/
def Moment.Issues (code : String) (moment : Moment) : Prop :=
  ∃ ticket, moment.Grants ticket ∧ ticket.inviteCode = code

/-- The game with this invite code is finalized. -/
def Moment.Finalizes (code : String) : Moment → Prop
  | answered (.finalization params) (.ok _) _ => params.inviteCode = code
  | _ => False

/-- The ticket was granted, and no game has been created or joined since. -/
def Latest (ticket : Ticket) (history : List Moment) : Prop :=
  Lasts (fun _ moment => moment.Grants ticket) (fun _ => Moment.Creates) history

/-- The game with this invite code was finalized, and none with this code has been created since. -/
def Spent (code : String) (history : List Moment) : Prop :=
  Lasts (fun _ moment => moment.Finalizes code) (fun _ => Moment.Issues code) history

/-- The ticket that is held after a moment, if `held` was held before. -/
def Moment.ticketAfter (held : Option Ticket) : Moment → Option Ticket
  | answered (.creation (.new _) _) (.ok granted) _ => some granted
  | answered (.creation (.join ..) _) (.ok _) _ => none
  | answered (.finalization params) (.ok _) _ =>
    held.filter fun ticket => ticket.inviteCode ≠ params.inviteCode
  | _ => held

def heldTicket (history : List Moment) : Option Ticket :=
  history.foldl (fun held moment => moment.ticketAfter held) none

theorem heldTicket_concat (past : List Moment) (moment : Moment) :
    heldTicket (past ++ [moment]) = moment.ticketAfter (heldTicket past) := by
  rw [heldTicket, List.foldl_append]
  rfl

theorem Core.Settled.ticket {core after : Core} {pending : Pending} {answer : pending.call.Answer}
    {result : Result} (settled : core.Settled pending answer after result) :
    after.session.value.ticket =
      (Moment.answered pending answer result).ticketAfter core.session.value.ticket := by
  cases settled with
  | switched known =>
      simp only [Core.switched, known]
      rfl
  | vanished unknown =>
      simp only [Core.switched, unknown]
      rfl
  | @creationFailed request => cases request <;> rfl
  | _ => rfl

theorem Core.replays_ticket :
    Replays (fun core => core.session.value.ticket)
      (fun held moment => moment.ticketAfter held) where
  ended started := started.ticket_of_finished
  called started := started.ticket_of_suspended
  answered settled := settled.ticket
  dropped core pending := ticket_release core pending.action
  pushedRegistry _ _ := rfl
  pushedChat core messages := by
    rw [session_pushChat]
    rfl

theorem ticket_of_reached {config : Config} {past : List Moment} {core : Core}
    {waiting : List Pending} (reached : Reached config past core waiting) :
    core.session.value.ticket = heldTicket past :=
  Core.replays_ticket.of_moves reached

/-- A ticket that is held after a moment is granted by it, or was held before and is not used up. -/
theorem Moment.grants_or_kept {moment : Moment} {held : Option Ticket} {ticket : Ticket}
    (after : moment.ticketAfter held = some ticket) :
    moment.Grants ticket ∨
      held = some ticket ∧ ¬ moment.Creates ∧ ¬ moment.Finalizes ticket.inviteCode := by
  match moment with
  | .answered (.creation (.new _) _) (.ok granted) _ => exact .inl (Option.some.inj after)
  | .answered (.creation (.join ..) _) (.ok _) _ => cases after
  | .answered (.finalization params) (.ok _) _ =>
      obtain ⟨kept, different⟩ := Option.filter_eq_some_iff.mp after
      refine .inr ⟨kept, id, fun same => ?_⟩
      exact absurd same.symm (by simpa using different)
  | .answered (.creation (.new _) _) (.error _) _ => exact .inr ⟨after, id, id⟩
  | .answered (.creation (.join ..) _) (.error _) _ => exact .inr ⟨after, id, id⟩
  | .answered (.finalization _) (.error _) _ => exact .inr ⟨after, id, id⟩
  | .answered (.switching _) _ _ => exact .inr ⟨after, id, id⟩
  | .answered .schemaLoad _ _ => exact .inr ⟨after, id, id⟩
  | .answered (.offering _) _ _ => exact .inr ⟨after, id, id⟩
  | .ended .. => exact .inr ⟨after, id, id⟩
  | .called _ => exact .inr ⟨after, id, id⟩
  | .dropped _ => exact .inr ⟨after, id, id⟩
  | .pushedRegistry _ => exact .inr ⟨after, id, id⟩
  | .pushedChat _ => exact .inr ⟨after, id, id⟩

theorem Moment.not_finalizes_of_grants {moment : Moment} {ticket : Ticket} {code : String}
    (grants : moment.Grants ticket) : ¬ moment.Finalizes code := by
  intro finalizes
  unfold Finalizes at finalizes
  split at finalizes
  · exact grants
  · exact finalizes

/-- The ticket that is held is the latest that was granted, and its game has not been finalized
since. -/
theorem latest_and_unspent {past : List Moment} {ticket : Ticket}
    (held : heldTicket past = some ticket) :
    Latest ticket past ∧ ¬ Spent ticket.inviteCode past := by
  induction past using List.reverseRecOn with
  | nil => cases held
  | append_singleton past moment ih =>
      rw [heldTicket_concat] at held
      -- Either the ticket is new, and its code is issued with it, or it was held before.
      rcases Moment.grants_or_kept held with grants | ⟨kept, createsNot, finalizesNot⟩
      · refine ⟨lasts_concat.mpr (.inl grants), fun spent => ?_⟩
        rcases lasts_concat.mp spent with finalizes | ⟨-, still⟩
        · exact Moment.not_finalizes_of_grants grants finalizes
        · exact still ⟨ticket, grants, rfl⟩
      · obtain ⟨latest, unspent⟩ := ih kept
        refine ⟨lasts_concat.mpr (.inr ⟨latest, createsNot⟩), fun spent => ?_⟩
        rcases lasts_concat.mp spent with finalizes | ⟨before, -⟩
        · exact finalizesNot finalizes
        · exact unspent before

/-! ## The main statement -/

/-- A call to finalize is made with the ticket that is held. -/
theorem Client.ticket_of_issued {client : Client} {step : Client.Step}
    {params : FinalizationParams}
    (issued : (client.step step).2.issued = some (.finalizeGame params)) :
    ∃ ticket, client.core.session.value.ticket = some ticket ∧
      params.inviteCode = ticket.inviteCode ∧ params.passcode = ticket.passcode := by
  obtain ⟨command, _, pending, after, -, started, call⟩ := Client.started_of_issued issued
  cases started with
  | finalizing _ _ fit =>
      obtain rfl := Gateway.Call.finalizeGame.inj call
      obtain ⟨ticket, held, -, code, passcode⟩ := Core.ticket_of_paramsFor fit
      exact ⟨ticket, held, code, passcode⟩
  | @creating request clean => cases clean <;> cases call
  | _ => cases call

/-- **Each ticket once.** In every run a call to finalize carries the code and the passcode of the
latest ticket. If a game with this code was finalized before, then one with this code has been
created since. -/
theorem finalize_uses_latest_ticket_once {config : Config} {client : Client}
    (new : Client.new config = .ok client) (steps : List Client.Step) (step : Client.Step)
    (params : FinalizationParams)
    (issued : ((client.run steps).step step).2.issued = some (.finalizeGame params)) :
    (∃ ticket, Latest ticket (client.history steps) ∧
      params.inviteCode = ticket.inviteCode ∧ params.passcode = ticket.passcode) ∧
    ∀ before moment after, client.history steps = before ++ moment :: after →
      moment.Finalizes params.inviteCode → ∃ later ∈ after, later.Issues params.inviteCode := by
  obtain ⟨ticket, held, code, passcode⟩ := Client.ticket_of_issued issued
  rw [ticket_of_reached (Client.reached new steps)] at held
  obtain ⟨latest, unspent⟩ := latest_and_unspent held
  refine ⟨⟨ticket, latest, code, passcode⟩, ?_⟩
  intro before moment after split finalizes
  by_contra none
  apply unspent
  rw [← code]
  refine ⟨before, moment, after, split, finalizes, fun between later rest behind issues => ?_⟩
  have mem : later ∈ after := by simp [behind]
  exact none ⟨later, mem, issues⟩

/-- A game that is finalized and then created again with the same code is finalized again. -/
theorem finalizes_again_after_creating_again :
    (((Client.fresh {}).run [.create .willing, .finalize .willing, .create .willing]).step
      (.finalize .silent)).2.issued =
        some (.finalizeGame ⟨"ABC123", "XYZ", 3600000, 1000000⟩) ∧
    ∃ ticket, Latest ticket
        ((Client.fresh {}).history [.create .willing, .finalize .willing, .create .willing]) ∧
      "ABC123" = ticket.inviteCode ∧ "XYZ" = ticket.passcode :=
  ⟨rfl, (finalize_uses_latest_ticket_once Client.new_default _ (.finalize .silent)
    ⟨"ABC123", "XYZ", 3600000, 1000000⟩ rfl).1⟩

/-! ## What the phase says about the ticket -/

/-- A ticket, or none, that a session in a phase may hold. -/
def Session.Phase.Fits : Session.Phase → Option Ticket → Prop
  | awaitingFinalization, ticket => ticket.isSome = true
  | finalizing, ticket => ticket.any Ticket.isComplete = true
  | _, _ => True

theorem Session.Phase.fits_of_canSwitch {phase : Session.Phase} (fit : phase.canSwitch = true)
    (ticket : Option Ticket) : phase.Fits ticket := by
  cases phase with
  | idle => trivial
  | active => trivial
  | _ => cases fit

/-- The ticket fits the phase, and the one that a create or join under way would bring back. -/
structure Prepared (core : Core) (waiting : List Pending) : Prop where
  fits : core.session.value.phase.Fits core.session.value.ticket
  prior : core.session.value.phase = .creating → ∀ request prior,
    .creation request prior ∈ waiting → prior.Fits core.session.value.ticket

namespace Prepared

variable {core after : Core} {waiting rest earlier later : List Pending}

theorem keep (prepared : Prepared core waiting) (keeps : core.KeepsPhase after)
    (ticket : after.session.value.ticket = core.session.value.ticket)
    (fewer : ∀ request prior, .creation request prior ∈ rest → .creation request prior ∈ waiting) :
    Prepared after rest := by
  rcases keeps with same | ⟨-, moved⟩
  · refine ⟨?_, fun creating request prior mem => ?_⟩
    · rw [same, ticket]
      exact prepared.fits
    · rw [same] at creating
      rw [ticket]
      exact prepared.prior creating request prior (fewer request prior mem)
  · refine ⟨Session.Phase.fits_of_canSwitch moved _, fun creating => ?_⟩
    rw [creating] at moved
    cases moved

/-- With another phase than `creating` there is nothing more to say. -/
theorem of_other (fits : after.session.value.phase.Fits after.session.value.ticket)
    (other : after.session.value.phase ≠ .creating) : Prepared after rest :=
  ⟨fits, fun creating => absurd creating other⟩

theorem called_creation (prepared : Prepared core waiting) (agree : Agreement core waiting)
    {command : Command} {request : Session.CreationRequest} {prior : Session.Phase}
    (started : core.Started command after (.suspended (.creation request prior))) :
    Prepared after (waiting ++ [.creation request prior]) := by
  have free : core.held .createOrJoin = false := started.free_of_suspended
  have ticket := started.ticket_of_suspended
  have phases : after.session.value.phase = .creating ∧ prior = core.session.value.phase := by
    cases started with
    | creating => exact ⟨rfl, rfl⟩
  obtain ⟨phase, rfl⟩ := phases
  refine ⟨by rw [phase]; trivial, fun _ request' prior' mem => ?_⟩
  -- What the new create or join would bring back is the phase that it found.
  rcases List.mem_append.mp mem with old | new
  · exact (agree.other_of_free free old rfl).elim
  · obtain ⟨-, rfl⟩ := Pending.creation.inj (List.mem_singleton.mp new)
    rw [ticket]
    exact prepared.fits

theorem called_finalization {command : Command} {params : FinalizationParams}
    (started : core.Started command after (.suspended (.finalization params))) :
    Prepared after rest := by
  cases started with
  | finalizing _ _ fit =>
      obtain ⟨ticket, held, complete, -, -⟩ := Core.ticket_of_paramsFor fit
      apply of_other
      · show Option.any _ core.session.value.ticket = true
        rw [held]
        exact complete
      · exact nofun

theorem answered_creation {request : Session.CreationRequest} {prior : Session.Phase}
    (prepared : Prepared core (earlier ++ .creation request prior :: later))
    (agree : Agreement core (earlier ++ .creation request prior :: later))
    {answer : (Pending.creation request prior).call.Answer} {result : Result}
    (settled : core.Settled (.creation request prior) answer after result) :
    Prepared after (earlier ++ later) := by
  have waits : .creation request prior ∈ earlier ++ Pending.creation request prior :: later := by
    simp
  refine ⟨?_, fun _ request' prior' mem => absurd rfl ((agree.mem_others _).mp mem).2⟩
  cases settled with
  | created => exact rfl
  | joined => trivial
  | creationFailed _ =>
      rw [Core.phase_creationFailed]
      split
      · next own => exact prepared.prior own request prior waits
      · exact prepared.fits

theorem answered_finalization {params : FinalizationParams}
    (prepared : Prepared core (earlier ++ .finalization params :: later))
    {answer : (Pending.finalization params).call.Answer} {result : Result}
    (settled : core.Settled (.finalization params) answer after result) :
    Prepared after (earlier ++ later) := by
  cases settled with
  | finalized => exact of_other trivial nofun
  | @finalizationFailed _ failure =>
      have phase := core.phase_finalizationFailed failure
      by_cases own : core.session.value.phase = .finalizing
      · rw [if_pos own] at phase
        apply of_other
        · have fits := prepared.fits
          rw [own] at fits
          rw [phase]
          exact Option.isSome_of_any fits
        · rw [phase]
          exact nofun
      · rw [if_neg own] at phase
        apply prepared.keep (.inl phase) rfl
        exact fun _ _ => mem_split_of_mem_others

end Prepared

theorem prepared_of_reached {config : Config} {past : List Moment} {core : Core}
    {waiting : List Pending} (reached : Reached config past core waiting) :
    Prepared core waiting := by
  induction reached with
  | start => exact ⟨trivial, nofun⟩
  | ended _ started ih =>
      exact ih.keep started.keepsPhase_of_finished started.ticket_of_finished fun _ _ mem => mem
  | @called _ _ _ _ _ pending before started ih =>
      -- Any other call leaves phase and ticket alone, and remembers no phase.
      cases pending with
      | creation request prior => exact ih.called_creation (agreement_of_reached before) started
      | finalization params => exact Prepared.called_finalization started
      | _ =>
          apply ih.keep (started.keepsPhase_of_suspended nofun nofun) started.ticket_of_suspended
          exact fun _ _ mem => mem_of_mem_concat mem nofun
  | @answered _ _ _ _ _ pending answer _ before settled ih =>
      cases pending with
      | creation request prior => exact ih.answered_creation (agreement_of_reached before) settled
      | finalization params => exact ih.answered_finalization settled
      | _ =>
          apply ih.keep (settled.keepsPhase nofun nofun)
          · rw [settled.ticket]
            rfl
          · exact fun _ _ => mem_split_of_mem_others
  | dropped _ ih =>
      apply ih.keep (.inl (Core.phase_release _ _)) (Core.ticket_release _ _)
      exact fun _ _ => mem_split_of_mem_others
  | pushedRegistry _ ih => exact ⟨ih.fits, ih.prior⟩
  | pushedChat _ ih =>
      have same := Core.session_pushChat
      refine ⟨?_, ?_⟩
      · rw [same]
        exact ih.fits
      · rw [same]
        exact ih.prior

end GameClient
