import GameClient.Proofs.FormLoading
import Mathlib.Algebra.Group.Nat.Defs

/-!
# Offers and their ends

A call to make an offer has one of four ends: the backend takes the offer, the offer fails at the
backend, its future is dropped, or it still waits. An offer that is refused before its call, or
turned away, is none of these and makes no call. `Client.Accounts` says so of a single step, where
the call that waits is read off the latch; counted over a run, the calls are the sum of their ends.

The form counts the offers that the backend took, up to the largest number of 32 bits. The main
statement is `offers_are_accounted_for`.
-/

namespace GameClient

/-! ## What a step does for an offer -/

namespace Client

/-- In how many steps of a run something happens. -/
def countSteps (happens : Client → Step → Bool) (client : Client) : List Step → Nat
  | [] => 0
  | step :: steps => (happens client step).toNat + (client.step step).1.countSteps happens steps

theorem countSteps_append (happens : Client → Step → Bool) (client : Client)
    (first second : List Step) :
    client.countSteps happens (first ++ second) =
      client.countSteps happens first + (client.run first).countSteps happens second := by
  induction first generalizing client with
  | nil => exact (Nat.zero_add _).symm
  | cons step steps ih =>
      show _ + (client.step step).1.countSteps happens (steps ++ second) = _
      rw [ih, ← Nat.add_assoc]
      rfl

def Outcome.succeeds : Outcome → Bool
  | completed (.ok _) => true
  | _ => false

/-- An action has failed since the backend did not do it. -/
def Outcome.failsAtBackend : Outcome → Bool
  | completed (.error error) => error.category = .backend
  | _ => false

def Outcome.isDropped : Outcome → Bool
  | dropped => true
  | _ => false

def callsOffer (client : Client) (step : Step) : Bool :=
  (client.step step).2.issued.any fun call => call.action = .purchaseOffer

/-- An offer ends in this way. -/
def endsOffer (ending : Outcome → Bool) (client : Client) (step : Step) : Bool :=
  client.actionOf? step = some .purchaseOffer && ending (client.step step).2.outcome

end Client

namespace Moment

def takesOffer : Moment → Bool
  | answered (.offering _) (.ok _) _ => true
  | _ => false

/-- The count of a form after a moment. -/
def sentAfter (sent : UInt32) (moment : Moment) : UInt32 :=
  if moment.takesOffer then Purchase.countOne sent else sent

theorem offersSent_purchaseAfter (purchase : Purchase) (moment : Moment) :
    (moment.purchaseAfter purchase).offersSent = moment.sentAfter purchase.offersSent := by
  have flagless (purchase : Purchase) (shown : Bool) (action : Action) :
      (purchase.withFlag shown action).offersSent = purchase.offersSent := by
    cases action <;> rfl
  cases moment with
  | answered pending answer result =>
      cases pending with
      | schemaLoad => cases answer <;> rfl
      | offering offer => cases answer <;> rfl
      | _ => rfl
  | _ => exact view_purchaseAfter Purchase.offersSent flagless purchase (by simp)

end Moment

namespace Core

variable {core after : Core} {command : Command} {pending : Pending} {answer : pending.call.Answer}
  {result : Result}

theorem replays_sent :
    Replays (fun core => core.purchase.value.offersSent)
      (fun sent moment => moment.sentAfter sent) :=
  replays_purchase.map Moment.offersSent_purchaseAfter

/-- An offer that ends before its call has not succeeded. -/
theorem Started.other_of_succeeds {success : Success}
    (started : Started core command after (.finished (.ok success))) :
    command.action ≠ .purchaseOffer := by
  cases started <;> nofun

/-- An offer whose call was answered was taken, or has failed at the backend. -/
theorem Settled.succeeds_or_fails (settled : Settled core pending answer after result)
    (offers : pending.action = .purchaseOffer) :
    (Client.Outcome.completed result).succeeds.toNat +
      (Client.Outcome.completed result).failsAtBackend.toNat = 1 := by
  cases settled with
  | offerTaken => rfl
  | @offerFailed _ failure => cases failure <;> rfl
  | _ => cases offers

theorem Settled.takesOffer_eq (settled : Settled core pending answer after result) :
    (Moment.answered pending answer result).takesOffer =
      (decide (pending.action = .purchaseOffer) &&
        (Client.Outcome.completed result).succeeds) := by
  cases settled <;> rfl

end Core

/-! ## Each call and its end -/

namespace Client

variable {config : Config} {client : Client} {past : List Moment} {step : Step}

/-- Every call to make an offer, and every one that waited before, is taken, fails, is dropped or
waits; and the form counts those that are taken. -/
structure Accounts (client : Client) (step : Step) : Prop where
  calls : (client.callsOffer step).toNat + (client.core.held .purchaseOffer).toNat =
    (client.endsOffer Outcome.succeeds step).toNat +
      (client.endsOffer Outcome.failsAtBackend step).toNat +
      (client.endsOffer Outcome.isDropped step).toNat +
      ((client.step step).1.core.held .purchaseOffer).toNat
  sent : (client.step step).1.core.purchase.value.offersSent =
    if client.endsOffer Outcome.succeeds step then
      Purchase.countOne client.core.purchase.value.offersSent
    else client.core.purchase.value.offersSent

theorem Stepped.calls {moments : List Moment} {after : Client} {outcome : Outcome}
    (agree : Agreement client.core client.waiting)
    (stepped : Stepped client step moments after outcome) :
    ((moments.head?.bind Moment.call?).any fun call => call.action = .purchaseOffer).toNat +
        (client.core.held .purchaseOffer).toNat =
      (client.actionOf? step = some .purchaseOffer && outcome.succeeds).toNat +
        (client.actionOf? step = some .purchaseOffer && outcome.failsAtBackend).toNat +
        (client.actionOf? step = some .purchaseOffer && outcome.isDropped).toNat +
        (after.core.held .purchaseOffer).toNat := by
  cases stepped with
  | @ended command _ _ result started =>
      have held := started.held_of_finished .purchaseOffer
      cases result with
      | ok success =>
          -- What succeeds before its call is a deselect or a form that was kept, never an offer.
          have other := started.other_of_succeeds
          simp [Moment.call?, actionOf?, held, other]
      | error error =>
          -- What fails before its call does not fail at the backend.
          have other := started.category_of_finished
          simp [Moment.call?, Outcome.succeeds, Outcome.failsAtBackend, Outcome.isDropped, held,
            other]
  | @called _ _ _ pending started =>
      have held := started.held_of_suspended .purchaseOffer
      -- The latch was free, so that the call that is counted is the only one that waits.
      have free := started.free_of_suspended
      by_cases offers : pending.action = .purchaseOffer
      · simp [Moment.call?, Outcome.succeeds, Outcome.failsAtBackend, Outcome.isDropped,
          Pending.action_call, held, offers, offers ▸ free]
      · simp [Moment.call?, Outcome.succeeds, Outcome.failsAtBackend, Outcome.isDropped,
          Pending.action_call, held, offers]
  | @answeredAtOnce command _ _ _ pending _ _ started _ settled =>
      have held := settled.held .purchaseOffer
      rw [started.held_of_suspended] at held
      have same : command.action = pending.action := started.action_of_suspended.symm
      have free := started.free_of_suspended
      by_cases offers : pending.action = .purchaseOffer
      · have ends := settled.succeeds_or_fails offers
        simp [Moment.call?, actionOf?, Outcome.isDropped, Pending.action_call, same, held, offers,
          offers ▸ free, ends]
      · simp [Moment.call?, actionOf?, Pending.action_call, same, held, offers]
  | @answered _ _ task _ _ _ found _ settled =>
      have held := settled.held .purchaseOffer
      -- A task that offers holds the latch, which its end gives back.
      have taken := agree.held_of_mem (List.mem_map_of_mem (mem_of_task? found))
      by_cases offers : task.pending.action = .purchaseOffer
      · have ends := settled.succeeds_or_fails offers
        simp [Moment.call?, actionOf?, Outcome.isDropped, found, held, offers, offers ▸ taken, ends]
      · simp [Moment.call?, actionOf?, found, held, offers]
  | @dropped _ task found =>
      have taken := agree.held_of_mem (List.mem_map_of_mem (mem_of_task? found))
      by_cases offers : task.pending.action = .purchaseOffer
      · simp [Moment.call?, actionOf?, Outcome.succeeds, Outcome.failsAtBackend, Outcome.isDropped,
          found, Core.abandon, Core.held_release, offers, offers ▸ taken]
      · simp [Moment.call?, actionOf?, found, Core.abandon, Core.held_release, offers]
  | pushedRegistry => simp [Moment.call?, actionOf?]; rfl
  | pushedChat => simp [Moment.call?, actionOf?, Core.held_pushChat]
  | _ => simp [Outcome.succeeds, Outcome.failsAtBackend, Outcome.isDropped]

/-- The count is raised by an offer that succeeds. -/
theorem Stepped.sent {moments : List Moment} {after : Client} {outcome : Outcome}
    (stepped : Stepped client step moments after outcome) (sent : UInt32) :
    moments.foldl (fun sent moment => moment.sentAfter sent) sent =
      if client.actionOf? step = some .purchaseOffer && outcome.succeeds then
        Purchase.countOne sent
      else sent := by
  cases stepped with
  | @ended command _ _ result started =>
      cases result with
      | ok success =>
          have other := started.other_of_succeeds
          simp [Moment.sentAfter, Moment.takesOffer, actionOf?, other]
      | error error => simp [Moment.sentAfter, Moment.takesOffer, Outcome.succeeds]
  | @answeredAtOnce command _ _ _ pending _ _ started _ settled =>
      have same : command.action = pending.action := started.action_of_suspended.symm
      have called : (Moment.called pending).takesOffer = false := rfl
      simp [Moment.sentAfter, called, settled.takesOffer_eq, actionOf?, same]
  | answered found _ settled =>
      simp [Moment.sentAfter, settled.takesOffer_eq, actionOf?, found]
  | _ => simp [Moment.sentAfter, Moment.takesOffer, Outcome.succeeds]

theorem InRun.accounts (runs : InRun config past client) (step : Step) : client.Accounts step := by
  have stepped := client.stepped step
  refine ⟨?_, ?_⟩
  · unfold callsOffer endsOffer
    rw [client.issued_eq]
    exact stepped.calls (agreement_of_reached runs.reached)
  · rw [Core.replays_sent.of_step runs.numbered step]
    exact stepped.sent _

/-! ## The account of a run -/

/-- The calls of a run, and those that waited before it, are those that have ended and those that
wait. -/
theorem InRun.calls_of_run (runs : InRun config past client) (steps : List Step) :
    client.countSteps callsOffer steps + (client.core.held .purchaseOffer).toNat =
      client.countSteps (endsOffer Outcome.succeeds) steps +
        client.countSteps (endsOffer Outcome.failsAtBackend) steps +
        client.countSteps (endsOffer Outcome.isDropped) steps +
        ((client.run steps).core.held .purchaseOffer).toNat := by
  induction steps generalizing client past with
  | nil => simp [countSteps, run]
  | cons step steps ih =>
      have now := (runs.accounts step).calls
      have later := ih (runs.concat step)
      simp only [countSteps, run]
      omega

/-- The count of the form stays at its largest value. -/
theorem InRun.sent_of_run (runs : InRun config past client) (steps : List Step) {before : Nat}
    (counted : client.core.purchase.value.offersSent.toNat = min before Purchase.greatestCount) :
    (client.run steps).core.purchase.value.offersSent.toNat =
      min (before + client.countSteps (endsOffer Outcome.succeeds) steps)
        Purchase.greatestCount := by
  induction steps generalizing client past before with
  | nil => exact counted
  | cons step steps ih =>
      have next : (client.step step).1.core.purchase.value.offersSent.toNat =
          min (before + (client.endsOffer Outcome.succeeds step).toNat) Purchase.greatestCount := by
        rw [(runs.accounts step).sent]
        cases client.endsOffer Outcome.succeeds step with
        | false => exact counted
        | true =>
            rw [if_pos rfl, Purchase.toNat_countOne, counted, Bool.toNat_true]
            omega
      show ((client.step step).1.run steps).core.purchase.value.offersSent.toNat = _
      rw [ih (runs.concat step) next, countSteps, Nat.add_assoc]

/-! ## The main statement -/

/-- What is told of the offers of a run. -/
structure AccountsForOffers (client : Client) (steps : List Step) : Prop where
  sent : (client.run steps).core.purchase.value.offersSent.toNat =
    min (client.countSteps (endsOffer Outcome.succeeds) steps) (2 ^ 32 - 1)
  /-- The count never falls. -/
  grows : ∀ more, (client.run steps).core.purchase.value.offersSent ≤
    (client.run (steps ++ more)).core.purchase.value.offersSent
  /-- Each call has one end, or waits. -/
  calls : client.countSteps callsOffer steps =
    client.countSteps (endsOffer Outcome.succeeds) steps +
      client.countSteps (endsOffer Outcome.failsAtBackend) steps +
      client.countSteps (endsOffer Outcome.isDropped) steps +
      ((client.run steps).outstanding .purchaseOffer).length

end Client

/-- **Offers.** In every run the form counts the offers that the backend took, up to the largest
count, and the calls to make an offer are the offers that were taken, failed at the backend, were
dropped or still wait. -/
theorem offers_are_accounted_for {config : Config} {client : Client}
    (new : Client.new config = .ok client) (steps : List Client.Step) :
    client.AccountsForOffers steps := by
  have began : Client.InRun config [] client := Client.inRun_of_new new []
  have start : client.core.purchase.value.offersSent.toNat = min 0 Purchase.greatestCount := by
    rw [Client.eq_fresh_of_new new]
    rfl
  have sent (steps : List Client.Step) := began.sent_of_run steps start
  refine ⟨?_, fun more => ?_, ?_⟩
  · rw [sent, Nat.zero_add]
    rfl
  · rw [UInt32.le_iff_toNat_le, sent, sent, Client.countSteps_append]
    omega
  · have free : client.core.held .purchaseOffer = false := by
      rw [Client.eq_fresh_of_new new]
      rfl
    have calls := began.calls_of_run steps
    rw [free, Bool.toNat_false, Nat.add_zero] at calls
    rw [calls, Client.length_outstanding, Client.underWay,
      (agreement_of_reached (Client.reached new steps)).count]

def Client.Step.offer (purchaseData : Payload) (gateway : Gateway) : Client.Step :=
  .start (.offer ⟨7⟩ purchaseData) gateway

/-- Offers that end in every way: refused, taken, failed, dropped, waiting and turned away. -/
def everyEnd : List Client.Step :=
  let form := Gateway.anyObject.form
  [.offer form .willing, .load .willing, .offer .null .willing, .offer form .willing,
    .offer form .offline, .offer form .silent, .drop 0, .offer form .silent, .offer form .willing]

/-- Of these one is taken, and four have called. -/
theorem one_of_four_calls_is_taken :
    ((Client.fresh {}).run everyEnd).core.purchase.value.offersSent.toNat = 1 ∧
      (Client.fresh {}).countSteps Client.callsOffer everyEnd = 1 + 1 + 1 + 1 := by
  have accounts := offers_are_accounted_for Client.new_default everyEnd
  exact ⟨accounts.sent.trans (by decide), accounts.calls.trans (by decide)⟩

end GameClient
