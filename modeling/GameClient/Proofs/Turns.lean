import GameClient.Core.Command
import GameClient.Proofs.KnownGames

/-!
# What the turns of the core come to

The core moves in turns: it starts a command, it goes on with an action whose call was answered, it
gives an action up, or it takes over a snapshot. Here is said once what each turn can come to and
what it leaves:

* `Core.Started` lists what starting a command can come to, and `Core.started` says that the list is
  complete.
* `Core.Settled` does the same for an action whose call was answered (`Core.settled`).
* The lemmas on `held` and `flag` say which latches and flags each turn leaves.

Everything that is proved of runs goes through these, so no later proof opens a turn again.
-/

namespace GameClient

open Gateway (Call)

/-- The settings that a command finalizes with, if it finalizes. -/
def Command.settings? (config : Config) : Command → Option Session.GameSettings
  | finalize settings => some settings
  | finalizeWithDefaults => some config.finalize
  | _ => none

theorem Core.action_of_settings {config : Config} {command : Command}
    {settings : Session.GameSettings} (asks : command.settings? config = some settings) :
    command.action = .finalize := by
  cases command <;> first | rfl | cases asks

namespace Core

variable {core after : Core} {command : Command} {action other : Action}

/-! ## Latches and flags -/

/-- The latch of an action is held. -/
def held (core : Core) (action : Action) : Bool := (core.latches.get action).held

/-- The core with the latch of an action held. -/
def latched (core : Core) (action : Action) : Core :=
  { core with latches := core.latches.put { core.latches.get action with held := true } action }

theorem acquire_of_free (free : core.held action = false) :
    core.acquire action = .ok (core.latched action) := by
  have taken := Latch.tryAcquire_eq_ok_iff.mpr ⟨free, rfl⟩
  simp only [acquire, taken, latched]

theorem acquire_of_held (taken : core.held action = true) :
    core.acquire action = .error (.actionPending (core.latches.get action).action) := by
  have refused := Latch.tryAcquire_eq_error_iff.mpr ⟨taken, rfl⟩
  simp only [acquire, refused]

theorem held_latched (core : Core) (action other : Action) :
    (core.latched action).held other = if action = other then true else core.held other := by
  show ((core.latches.put _ action).get other).held = _
  rw [Latches.get_put]
  split <;> rfl

theorem held_release (core : Core) (action other : Action) :
    (core.release action).held other = if action = other then false else core.held other := by
  have cleared : (core.release action).held other = (core.freeLatch action).held other := by
    cases action <;> rfl
  rw [cleared]
  show ((core.latches.put _ action).get other).held = _
  rw [Latches.get_put]
  split <;> rfl

theorem flag_release (core : Core) (action other : Action) :
    (core.release action).flag other = if action = other then false else core.flag other := by
  cases action <;> cases other <;> rfl

/-- A latch stays the latch of its action. -/
theorem action_latched (core : Core) (action other : Action) :
    ((core.latched action).latches.get other).action = (core.latches.get other).action := by
  show ((core.latches.put _ action).get other).action = _
  rw [Latches.get_put]
  split
  · next same => rw [same]
  · rfl

theorem action_release (core : Core) (action other : Action) :
    ((core.release action).latches.get other).action = (core.latches.get other).action := by
  have cleared : (core.release action).latches = (core.freeLatch action).latches := by
    cases action <;> rfl
  rw [cleared]
  show ((core.latches.put _ action).get other).action = _
  rw [Latches.get_put]
  split
  · next same => rw [same]; rfl
  · rfl

/-! ## What releasing leaves alone -/

/-- Clearing a flag that is not shown changes nothing, and does not count as a write. -/
theorem clearFlag_of_hidden (hidden : core.flag action = false) : core.clearFlag action = core := by
  obtain ⟨config, registry, ⟨session, _⟩, feed, chat, ⟨purchase, _⟩, latches⟩ := core
  obtain ⟨phase, ticket, creating, finalizing, switching, lastError⟩ := session
  obtain ⟨schema, loadingSchema, submitting, offersSent⟩ := purchase
  cases action <;> cases hidden <;> rfl

theorem release_of_hidden (hidden : core.flag action = false) :
    core.release action = core.freeLatch action := by
  refine clearFlag_of_hidden (hidden ▸ ?_)
  cases action <;> rfl

@[simp] theorem phase_release (core : Core) (action : Action) :
    (core.release action).session.value.phase = core.session.value.phase := by
  cases action <;> rfl

@[simp] theorem ticket_release (core : Core) (action : Action) :
    (core.release action).session.value.ticket = core.session.value.ticket := by
  cases action <;> rfl

/-! ## Starting a command -/

/-- Why a command about the session is refused by a core whose latch is free. -/
inductive Refuses (core : Core) : Command → ActionError → Prop where
  | creation {request : Session.CreationRequest} {error : ValidationError}
      (invalid : request.validated = .error error) :
      Refuses core (.createOrJoin request) (.validation error)
  | finalization {command : Command} {settings : Session.GameSettings} {error : ValidationError}
      (asks : command.settings? core.config = some settings)
      (unfit : paramsFor core.session.value settings = .error error) :
      Refuses core command (.validation error)
  | switch {target : String} (named : target ≠ "")
      (unfit : core.session.value.phase.canSwitch = false) :
      Refuses core (.switch target) (.validation (.switchUnavailable core.session.value.phase.text))
  | target {target : String} (named : target ≠ "")
      (fit : core.session.value.phase.canSwitch = true)
      (unknown : core.registry.value.contains target = false) :
      Refuses core (.switch target) (.unknownHandle target)

/-- What starting a command can come to: the core after it, and how far the action has come. -/
inductive Started (core : Core) : Command → Core → Progress → Prop where
  /-- The action is under way already. -/
  | turnedAway {command : Command} (taken : core.held command.action = true) :
      Started core command core
        (.finished (.error (.actionPending (core.latches.get command.action).action)))
  /-- The session shows why the command cannot be done. -/
  | refused {command : Command} {error : ActionError} (free : core.held command.action = false)
      (refuses : core.Refuses command error) :
      Started core command
        (((core.latched command.action).surface error).release command.action)
        (.finished (.error error))
  | offerRefused {player : PlayerId} {purchaseData : Payload} {error : ValidationError}
      (free : core.held .purchaseOffer = false)
      (unfit : core.purchase.value.isReady = false ∧ error = .schemaNotLoaded ∨
        core.purchase.value.isReady = true ∧ purchaseData.isObject = false ∧
          error = .malformedPurchaseData) :
      Started core (.offer player purchaseData)
        ((core.latched .purchaseOffer).release .purchaseOffer)
        (.finished (.error (.validation error)))
  | deselected (free : core.held .switch = false) :
      Started core (.switch "") core.deselect.core (.finished (.ok .done))
  /-- The form is there already. -/
  | schemaKept {schema : PurchaseSchema} (free : core.held .loadPurchaseSchema = false)
      (kept : core.purchase.value.schema = some schema) :
      Started core .loadSchema
        ((core.latched .loadPurchaseSchema).release .loadPurchaseSchema)
        (.finished (.ok (.schema schema)))
  | creating {request clean : Session.CreationRequest} (free : core.held .createOrJoin = false)
      (valid : request.validated = .ok clean) :
      Started core (.createOrJoin request)
        ((core.latched .createOrJoin).updateSession fun s =>
          { s with creating := true, phase := .creating })
        (.suspended (.creation clean core.session.value.phase))
  | finalizing {command : Command} {settings : Session.GameSettings}
      {params : Session.FinalizationParams} (free : core.held .finalize = false)
      (asks : command.settings? core.config = some settings)
      (fit : paramsFor core.session.value settings = .ok params) :
      Started core command
        ((core.latched .finalize).updateSession fun s =>
          { s with finalizing := true, phase := .finalizing })
        (.suspended (.finalization params))
  | switching {target : String} (free : core.held .switch = false) (named : target ≠ "")
      (fit : core.session.value.phase.canSwitch = true)
      (known : core.registry.value.contains target = true) :
      Started core (.switch target)
        ((core.latched .switch).updateSession fun s => { s with switching := true })
        (.suspended (.switching target))
  | loading (free : core.held .loadPurchaseSchema = false)
      (missing : core.purchase.value.schema = none) :
      Started core .loadSchema
        ((core.latched .loadPurchaseSchema).updatePurchase fun p =>
          { p with loadingSchema := true })
        (.suspended .schemaLoad)
  | offering {player : PlayerId} {purchaseData : Payload} (free : core.held .purchaseOffer = false)
      (ready : core.purchase.value.isReady = true) (object : purchaseData.isObject = true) :
      Started core (.offer player purchaseData)
        ((core.latched .purchaseOffer).updatePurchase fun p => { p with submitting := true })
        (.suspended (.offering { purchaseData, player }))

theorem started_creation (core : Core) (request : Session.CreationRequest) :
    Started core (.createOrJoin request) (core.startCreation request).core
      (core.startCreation request).value := by
  unfold startCreation
  cases taken : core.held .createOrJoin with
  | true =>
      rw [acquire_of_held taken]
      exact .turnedAway taken
  | false =>
      rw [acquire_of_free taken]
      cases valid : request.validated with
      | error error => exact .refused taken (.creation valid)
      | ok clean => exact .creating taken valid

theorem started_finalization {settings : Session.GameSettings}
    (asks : command.settings? core.config = some settings)
    (finalizes : command.action = .finalize) :
    Started core command (core.startFinalization settings).core
      (core.startFinalization settings).value := by
  unfold startFinalization
  cases taken : core.held .finalize with
  | true =>
      rw [acquire_of_held taken]
      have away : Started core command _ _ := .turnedAway (by rw [finalizes, taken])
      rwa [finalizes] at away
  | false =>
      rw [acquire_of_free taken]
      -- Taking the latch leaves the session alone, so the parameters are those of the core.
      have same : (core.latched .finalize).session.value = core.session.value := rfl
      dsimp only
      rw [same]
      cases fit : paramsFor core.session.value settings with
      | error error =>
          have refused := Started.refused (by rw [finalizes, taken]) (.finalization asks fit)
          rwa [finalizes] at refused
      | ok params => exact .finalizing taken asks fit

theorem started_switch (core : Core) (target : String) (named : target ≠ "") :
    Started core (.switch target) (core.startSwitch target).core
      (core.startSwitch target).value := by
  unfold startSwitch
  cases taken : core.held .switch with
  | true =>
      rw [acquire_of_held taken]
      exact .turnedAway taken
  | false =>
      rw [acquire_of_free taken]
      have phase : (core.latched .switch).session.value.phase = core.session.value.phase := rfl
      have registry : (core.latched .switch).registry.value = core.registry.value := rfl
      dsimp only
      rw [phase, registry]
      split
      · next unfit => exact .refused taken (.switch named unfit)
      · next fit =>
          rw [Bool.not_eq_false] at fit
          split
          · next unknown => exact .refused taken (.target named fit unknown)
          · next known =>
              rw [Bool.not_eq_false] at known
              exact .switching taken named fit known

theorem started_deselect (core : Core) :
    Started core (.switch "") core.deselect.core core.deselect.value := by
  cases taken : core.held .switch with
  | true =>
      have away : core.deselect =
          .turnedAway core (.actionPending (core.latches.get .switch).action) := by
        unfold deselect
        rw [acquire_of_held taken]
      rw [away]
      exact .turnedAway taken
  | false =>
      have done : core.deselect.value = .finished (.ok .done) := by
        unfold deselect
        rw [acquire_of_free taken]
      rw [done]
      exact .deselected taken

theorem started_schemaLoad (core : Core) :
    Started core .loadSchema core.startSchemaLoad.core core.startSchemaLoad.value := by
  unfold startSchemaLoad
  cases taken : core.held .loadPurchaseSchema with
  | true =>
      rw [acquire_of_held taken]
      exact .turnedAway taken
  | false =>
      rw [acquire_of_free taken]
      have same : (core.latched .loadPurchaseSchema).purchase.value = core.purchase.value := rfl
      dsimp only
      rw [same]
      cases kept : core.purchase.value.schema with
      | some schema => exact .schemaKept taken kept
      | none => exact .loading taken kept

theorem started_offer (core : Core) (player : PlayerId) (purchaseData : Payload) :
    Started core (.offer player purchaseData) (core.startOffer player purchaseData).core
      (core.startOffer player purchaseData).value := by
  unfold startOffer
  cases taken : core.held .purchaseOffer with
  | true =>
      rw [acquire_of_held taken]
      exact .turnedAway taken
  | false =>
      rw [acquire_of_free taken]
      have same : (core.latched .purchaseOffer).purchase.value = core.purchase.value := rfl
      dsimp only
      rw [same]
      split
      · next empty => exact .offerRefused taken (.inl ⟨empty, rfl⟩)
      · next ready =>
          rw [Bool.not_eq_false] at ready
          split
          · next malformed => exact .offerRefused taken (.inr ⟨ready, malformed, rfl⟩)
          · next object =>
              rw [Bool.not_eq_false] at object
              exact .offering taken ready object

/-- The list of `Started` is complete. -/
theorem started (core : Core) (command : Command) :
    Started core command (core.start command).core (core.start command).value := by
  cases command with
  | createOrJoin request => exact started_creation core request
  | finalize settings => exact started_finalization rfl rfl
  | finalizeWithDefaults => exact started_finalization rfl rfl
  | switch target =>
      show Started core _ (if target = "" then core.deselect else core.startSwitch target).core
        (if target = "" then core.deselect else core.startSwitch target).value
      split
      · next empty =>
          rw [empty]
          exact started_deselect core
      · next named => exact started_switch core target named
  | loadSchema => exact started_schemaLoad core
  | offer player purchaseData => exact started_offer core player purchaseData

/-! ## Going on after a call -/

/-- What an action comes to whose call was answered: the core after it, and its result. -/
inductive Settled (core : Core) :
    (pending : Pending) → pending.call.Answer → Core → Result → Prop where
  | created {nickname : String} {prior : Session.Phase} {ticket : Session.Ticket} :
      Settled core (.creation (.new nickname) prior) (.ok ticket)
        (core.created ticket).core (.ok (.session (.created ticket)))
  | joined {nickname inviteCode : String} {prior : Session.Phase} :
      Settled core (.creation (.join nickname inviteCode) prior) (.ok ())
        core.joined.core (.ok (.session .joined))
  | creationFailed {request : Session.CreationRequest} {prior : Session.Phase}
      {failure : Gateway.Failure} {operation : Gateway.Operation}
      (asked : (Pending.creation request prior).call.operation = operation) :
      Settled core (.creation request prior) (.error failure)
        (core.creationFailed prior operation failure).core
        (.error (.ofFailure operation failure))
  | finalized {params : Session.FinalizationParams} :
      Settled core (.finalization params) (.ok ()) (core.finalized params).core (.ok .done)
  | finalizationFailed {params : Session.FinalizationParams} {failure : Gateway.Failure} :
      Settled core (.finalization params) (.error failure) (core.finalizationFailed failure).core
        (.error (.ofFailure .finalizeGame failure))
  | switched {target : String} {registry : Registry}
      (known : core.registry.value.setActive (some target) = .ok registry) :
      Settled core (.switching target) (.ok ()) (core.switched target).core (.ok .done)
  /-- A snapshot has dropped the game in the meantime. -/
  | vanished {target : String} {error : ActionError}
      (unknown : core.registry.value.setActive (some target) = .error error) :
      Settled core (.switching target) (.ok ()) (core.switched target).core (.error error)
  | switchFailed {target : String} {failure : Gateway.Failure} :
      Settled core (.switching target) (.error failure) (core.switchFailed failure).core
        (.error (.ofFailure .switchToGame failure))
  | schemaLoaded {schema : PurchaseSchema} :
      Settled core .schemaLoad (.ok schema) (core.schemaLoaded schema).core (.ok (.schema schema))
  | schemaLoadFailed {failure : Gateway.Failure} :
      Settled core .schemaLoad (.error failure) (core.schemaLoadFailed failure).core
        (.error (.ofFailure .getPurchaseSchema failure))
  | offerTaken {offer : PurchaseOffer} :
      Settled core (.offering offer) (.ok ()) (core.offerTaken offer).core (.ok .done)
  | offerFailed {offer : PurchaseOffer} {failure : Gateway.Failure} :
      Settled core (.offering offer) (.error failure) (core.offerFailed offer failure).core
        (.error (.ofFailure .makePurchaseOffer failure))

theorem settled_switched (core : Core) (target : String) :
    Settled core (.switching target) (.ok ()) (core.switched target).core
      (core.switched target).value := by
  cases known : core.registry.value.setActive (some target) with
  | ok registry =>
      have done : (core.switched target).value = .ok .done := by simp [switched, known, Turn.ended]
      rw [done]
      exact .switched known
  | error error =>
      have failed : (core.switched target).value = .error error := by
        simp [switched, known, Turn.ended]
      rw [failed]
      exact .vanished known

/-- The list of `Settled` is complete. -/
theorem settled (core : Core) (pending : Pending) (answer : pending.call.Answer) :
    Settled core pending answer (core.resume pending answer).core
      (core.resume pending answer).value := by
  match pending, answer with
  | .creation (.new _) _, .ok _ => exact .created
  | .creation (.new _) _, .error _ => exact .creationFailed rfl
  | .creation (.join ..) _, .ok () => exact .joined
  | .creation (.join ..) _, .error _ => exact .creationFailed rfl
  | .finalization _, .ok () => exact .finalized
  | .finalization _, .error _ => exact .finalizationFailed
  | .switching target, .ok () => exact settled_switched core target
  | .switching _, .error _ => exact .switchFailed
  | .schemaLoad, .ok _ => exact .schemaLoaded
  | .schemaLoad, .error _ => exact .schemaLoadFailed
  | .offering _, .ok () => exact .offerTaken
  | .offering _, .error _ => exact .offerFailed

/-- An action whose call was answered fails because its game is gone, or because of the backend. -/
theorem Settled.error_cases {pending : Pending} {answer : pending.call.Answer} {error : ActionError}
    (settled : Settled core pending answer after (.error error)) :
    (∃ key, error = .unknownHandle key) ∨
      ∃ operation failure, error = .ofFailure operation failure := by
  cases settled with
  | vanished unknown =>
      obtain ⟨-, -, rfl⟩ := Registry.setActive_eq_error_iff.mp unknown
      exact .inl ⟨_, rfl⟩
  | _ => exact .inr ⟨_, _, rfl⟩

/-- A command that ends before its call does not fail at the backend. -/
theorem Started.category_of_finished {error : ActionError}
    (started : Started core command after (.finished (.error error))) :
    error.category ≠ .backend := by
  cases started with
  | turnedAway => nofun
  | refused _ refuses => cases refuses <;> nofun
  | offerRefused => nofun

/-! ## Latches and flags after a turn

A command that ends before its call leaves latches and flags as they were. One that calls holds its
latch and shows its flag, and an action that is over or given up frees the one and clears the other.
-/

/-- Who takes a free latch and lets go of it leaves the latches as they were. -/
theorem held_release_of_latched (free : core.held action = false)
    (taken : ∀ other, after.held other = (core.latched action).held other) (other : Action) :
    (after.release action).held other = core.held other := by
  rw [held_release]
  split
  · next same => rw [← same, free]
  · next different => rw [taken, held_latched, if_neg different]

theorem session_deselect (free : core.held .switch = false) :
    core.deselect.core.session.value =
      if core.session.value.phase = .active then { core.session.value with phase := .idle }
      else core.session.value := by
  simp only [deselect, acquire_of_free free]
  exact apply_ite Prod.fst _ _ _

theorem purchase_deselect (free : core.held .switch = false) :
    core.deselect.core.purchase = core.purchase := by
  simp only [deselect, acquire_of_free free]
  rfl

theorem held_deselect (free : core.held .switch = false) (other : Action) :
    core.deselect.core.held other = core.held other := by
  have freed : core.deselect.core.held other =
      ((core.latched .switch).release .switch).held other := by
    simp only [deselect, acquire_of_free free]
    rfl
  rw [freed]
  exact held_release_of_latched free (by intro; rfl) other

theorem flag_deselect (free : core.held .switch = false) (other : Action) :
    core.deselect.core.flag other = core.flag other := by
  have session := session_deselect free
  have purchase := purchase_deselect free
  cases other <;> simp only [flag, session, purchase] <;> split <;> rfl

/-- A command that ends before its call leaves the latches as they were. -/
theorem Started.held_of_finished {result : Result}
    (h : Started core command after (.finished result)) (other : Action) :
    after.held other = core.held other := by
  cases h with
  | turnedAway => rfl
  | refused free _ => exact held_release_of_latched free (by intro; rfl) other
  | offerRefused free _ => exact held_release_of_latched free (by intro; rfl) other
  | deselected free => exact held_deselect free other
  | schemaKept free _ => exact held_release_of_latched free (by intro; rfl) other

/-- It leaves the flags as they were, too, if none is shown of a latch that is free. -/
theorem Started.flag_of_finished {result : Result}
    (h : Started core command after (.finished result))
    (hidden : ∀ action, core.held action = false → core.flag action = false) (other : Action) :
    after.flag other = core.flag other := by
  cases h with
  | turnedAway => rfl
  | refused free _ =>
      -- The latch was free, so its flag was hidden already, and the others are not touched.
      rw [flag_release]
      split
      · next same => rw [← same, hidden _ free]
      · cases other <;> rfl
  | offerRefused free _ =>
      rw [flag_release]
      split
      · next same => rw [← same, hidden _ free]
      · cases other <;> rfl
  | deselected free => exact flag_deselect free other
  | schemaKept free _ =>
      rw [flag_release]
      split
      · next same => rw [← same, hidden _ free]
      · cases other <;> rfl

/-- The action was under way already. -/
def isTurnedAway : Result → Bool
  | .error (.actionPending _) => true
  | _ => false

/-- A command that ends before its call and is not turned away found its latch free. -/
theorem Started.free_of_finished {result : Result}
    (h : Started core command after (.finished result)) (done : isTurnedAway result = false) :
    core.held command.action = false := by
  cases h with
  | turnedAway => cases done
  | refused free _ => exact free
  | offerRefused free _ => exact free
  | deselected free => exact free
  | schemaKept free _ => exact free

/-- A command that is turned away found its latch held and changes nothing. -/
theorem Started.eq_of_turnedAway {result : Result}
    (h : Started core command after (.finished result)) (away : isTurnedAway result = true) :
    core.held command.action = true ∧ after = core := by
  cases h with
  | turnedAway taken => exact ⟨taken, rfl⟩
  | refused _ refuses => cases refuses <;> cases away
  | offerRefused => cases away
  | deselected => cases away
  | schemaKept => cases away

/-- A command that calls is the action that waits. -/
theorem Started.action_of_suspended {pending : Pending}
    (h : Started core command after (.suspended pending)) : pending.action = command.action := by
  cases h with
  | finalizing _ asks => exact (action_of_settings asks).symm
  | _ => rfl

/-- A command that calls found its latch free. -/
theorem Started.free_of_suspended {pending : Pending}
    (h : Started core command after (.suspended pending)) : core.held pending.action = false := by
  cases h <;> assumption

theorem Started.held_of_suspended {pending : Pending}
    (h : Started core command after (.suspended pending)) (other : Action) :
    after.held other = if pending.action = other then true else core.held other := by
  cases h <;> exact held_latched _ _ _

theorem Started.flag_of_suspended {pending : Pending}
    (h : Started core command after (.suspended pending)) (other : Action) :
    after.flag other = if pending.action = other then true else core.flag other := by
  cases h <;> cases other <;> rfl

theorem Settled.held {pending : Pending} {answer : pending.call.Answer} {result : Result}
    (h : Settled core pending answer after result) (other : Action) :
    after.held other = if pending.action = other then false else core.held other := by
  cases h with
  | switched known =>
      simp only [Core.switched, known]
      exact held_release _ _ _
  | vanished unknown =>
      simp only [Core.switched, unknown]
      exact held_release _ _ _
  | _ => exact held_release _ _ _

theorem Settled.flag {pending : Pending} {answer : pending.call.Answer} {result : Result}
    (h : Settled core pending answer after result) (other : Action) :
    after.flag other = if pending.action = other then false else core.flag other := by
  cases h with
  | switched known =>
      simp only [Core.switched, known]
      cases other <;> rfl
  | vanished unknown =>
      simp only [Core.switched, unknown]
      cases other <;> rfl
  | _ => cases other <;> rfl

/-- Starting a command leaves each latch the latch of its action. -/
theorem Started.action_latches {progress : Progress} (h : Started core command after progress)
    (other : Action) : (after.latches.get other).action = (core.latches.get other).action := by
  cases h with
  | turnedAway => rfl
  | deselected free =>
      simp only [deselect, acquire_of_free free]
      exact (action_release _ .switch other).trans (action_latched core .switch other)
  | refused => exact (action_release _ _ _).trans (action_latched core _ other)
  | offerRefused => exact (action_release _ _ _).trans (action_latched core _ other)
  | schemaKept => exact (action_release _ _ _).trans (action_latched core _ other)
  | _ => exact action_latched core _ other

theorem Settled.action_latches {pending : Pending} {answer : pending.call.Answer} {result : Result}
    (h : Settled core pending answer after result) (other : Action) :
    (after.latches.get other).action = (core.latches.get other).action := by
  cases h with
  | switched known =>
      simp only [Core.switched, known]
      exact action_release _ _ _
  | vanished unknown =>
      simp only [Core.switched, unknown]
      exact action_release _ _ _
  | _ => exact action_release _ _ _

theorem latches_pushChat (core : Core) (messages : List Chat.Message) :
    (core.pushChat messages).core.latches = core.latches := by
  unfold pushChat
  split <;> rfl

theorem held_pushChat (core : Core) (messages : List Chat.Message) (action : Action) :
    (core.pushChat messages).core.held action = core.held action := by
  rw [held, latches_pushChat, held]

theorem session_pushChat (core : Core) (messages : List Chat.Message) :
    (core.pushChat messages).core.session = core.session := by
  unfold pushChat
  split <;> rfl

theorem purchase_pushChat (core : Core) (messages : List Chat.Message) :
    (core.pushChat messages).core.purchase = core.purchase := by
  unfold pushChat
  split <;> rfl

/-! ## Phase and ticket after a turn

Only creating and finalizing decide on the phase and the ticket. The other actions leave the ticket
alone, and at most move the phase between `idle` and `active`. -/

/-- The phase stays, or it moves between phases in which the user may go over to another game. -/
def KeepsPhase (core after : Core) : Prop :=
  after.session.value.phase = core.session.value.phase ∨
    core.session.value.phase.canSwitch = true ∧ after.session.value.phase.canSwitch = true

theorem Started.keepsPhase_of_finished {result : Result}
    (h : Started core command after (.finished result)) : KeepsPhase core after := by
  cases h with
  | deselected free =>
      unfold KeepsPhase
      rw [session_deselect free]
      split
      · next active => exact .inr ⟨by rw [active]; rfl, rfl⟩
      · exact .inl rfl
  | turnedAway => exact .inl rfl
  | _ => exact .inl (phase_release _ _)

theorem Started.ticket_of_finished {result : Result}
    (h : Started core command after (.finished result)) :
    after.session.value.ticket = core.session.value.ticket := by
  cases h with
  | deselected free => rw [session_deselect free]; split <;> rfl
  | turnedAway => rfl
  | _ => exact ticket_release _ _

theorem Started.keepsPhase_of_suspended {pending : Pending}
    (h : Started core command after (.suspended pending))
    (createsNot : pending.action ≠ .createOrJoin) (finalizesNot : pending.action ≠ .finalize) :
    KeepsPhase core after := by
  cases h with
  | creating => exact absurd rfl createsNot
  | finalizing => exact absurd rfl finalizesNot
  | _ => exact .inl rfl

theorem Started.ticket_of_suspended {pending : Pending}
    (h : Started core command after (.suspended pending)) :
    after.session.value.ticket = core.session.value.ticket := by
  cases h <;> rfl

theorem phase_of_paramsFor {session : Session} {settings : Session.GameSettings}
    {params : Session.FinalizationParams} (fit : paramsFor session settings = .ok params) :
    session.phase = .awaitingFinalization := by
  unfold paramsFor at fit
  split at fit
  · next awaiting => exact awaiting
  · cases fit

/-- What a finalize is made with is the ticket that is held, and both its parts are there. -/
theorem ticket_of_paramsFor {session : Session} {settings : Session.GameSettings}
    {params : Session.FinalizationParams} (fit : paramsFor session settings = .ok params) :
    ∃ ticket, session.ticket = some ticket ∧ ticket.isComplete = true ∧
      params.inviteCode = ticket.inviteCode ∧ params.passcode = ticket.passcode := by
  unfold paramsFor at fit
  split at fit
  · split at fit
    · cases fit
    · next ticket held =>
        unfold Session.GameSettings.finalizationParams at fit
        split at fit
        · cases fit
        · split at fit
          · next complete =>
              obtain rfl := Except.ok.inj fit
              exact ⟨ticket, held, complete, rfl, rfl⟩
          · cases fit
  · cases fit

theorem phase_creationFailed (core : Core) (prior : Session.Phase) (operation : Gateway.Operation)
    (failure : Gateway.Failure) :
    (core.creationFailed prior operation failure).core.session.value.phase =
      if core.session.value.phase = .creating then prior else core.session.value.phase :=
  rfl

theorem phase_finalizationFailed (core : Core) (failure : Gateway.Failure) :
    (core.finalizationFailed failure).core.session.value.phase =
      if core.session.value.phase = .finalizing then .awaitingFinalization
      else core.session.value.phase :=
  rfl

theorem keepsPhase_switched {target : String} {registry : Registry}
    (known : core.registry.value.setActive (some target) = .ok registry) :
    KeepsPhase core (core.switched target).core := by
  have phase : (core.switched target).core.session.value.phase =
      if core.session.value.phase.canSwitch then .active else core.session.value.phase := by
    simp only [Core.switched, known]
    rfl
  unfold KeepsPhase
  rw [phase]
  split
  · next fit => exact .inr ⟨fit, rfl⟩
  · exact .inl rfl

theorem Settled.keepsPhase {pending : Pending} {answer : pending.call.Answer} {result : Result}
    (h : Settled core pending answer after result) (createsNot : pending.action ≠ .createOrJoin)
    (finalizesNot : pending.action ≠ .finalize) : KeepsPhase core after := by
  cases h with
  | created => exact absurd rfl createsNot
  | joined => exact absurd rfl createsNot
  | creationFailed => exact absurd rfl createsNot
  | finalized => exact absurd rfl finalizesNot
  | finalizationFailed => exact absurd rfl finalizesNot
  | switched known => exact keepsPhase_switched known
  | vanished unknown =>
      refine .inl ?_
      simp only [Core.switched, unknown]
      rfl
  | _ => exact .inl rfl

end Core

end GameClient
