import GameClient.Proofs.Turns

/-!
# Turns and passcodes

A passcode comes with a ticket and goes to the backend when the game is finalized. In between only
one thing depends on it: whether there is one. Two values are called alike if they are the same but
for the passcodes in them, and here is shown that the turns of the core keep it so.

Most turns neither look at the ticket that is held nor change it (`Core.Blind`), and what they do is
the same for alike cores. The others bring a ticket, use it or drop it. Together they give
`Core.Alike.start` for commands and `Core.Alike.resume` for actions whose call was answered.
-/

namespace GameClient

open Gateway (Call)
open Session (Ticket FinalizationParams GameSettings CreationOutcome)
open Text (inspect)

/-! ## Values that are alike -/

namespace Session

/-- The tickets are the same but for the passcode, and it is missing in both or in neither. -/
structure Ticket.Alike (ticket other : Ticket) : Prop where
  inviteCode : other.inviteCode = ticket.inviteCode
  missing : other.passcode = "" ↔ ticket.passcode = ""

/-- The parameters are the same but for the passcode, which is missing in both or in neither. -/
structure FinalizationParams.Alike (params other : FinalizationParams) : Prop where
  inviteCode : other.inviteCode = params.inviteCode
  missing : other.passcode = "" ↔ params.passcode = ""
  finishTimeMs : other.finishTimeMs = params.finishTimeMs
  startAmount : other.startAmount = params.startAmount

/-- The outcomes are the same but for the passcode of a ticket. -/
inductive CreationOutcome.Alike : CreationOutcome → CreationOutcome → Prop where
  | created {ticket other : Ticket} (alike : ticket.Alike other) :
      Alike (.created ticket) (.created other)
  | joined : Alike .joined .joined

variable {ticket other : Ticket}

theorem Ticket.Alike.refl (ticket : Ticket) : ticket.Alike ticket := ⟨rfl, .rfl⟩

theorem Ticket.Alike.isComplete (alike : ticket.Alike other) :
    other.isComplete = ticket.isComplete := by
  simp only [Ticket.isComplete, alike.inviteCode, ne_eq, alike.missing]

theorem Ticket.Alike.inspect_eq (alike : ticket.Alike other) : inspect other = inspect ticket := by
  simp only [inspect, alike.inviteCode]

theorem FinalizationParams.Alike.inspect_eq {params other : FinalizationParams}
    (alike : params.Alike other) : inspect other = inspect params := by
  simp only [inspect, alike.inviteCode, alike.finishTimeMs, alike.startAmount]

theorem CreationOutcome.Alike.inspect_eq {outcome other : CreationOutcome}
    (alike : outcome.Alike other) : inspect other = inspect outcome := by
  cases alike with
  | created alike => exact congrArg (Text.inspectWrapped "Created") alike.inspect_eq
  | joined => rfl

/-- Settings give parameters that are alike to tickets that are, or the same complaint. -/
theorem GameSettings.finalizationParams_alike (settings : GameSettings)
    (alike : ticket.Alike other) :
    (∃ error, settings.finalizationParams ticket = .error error ∧
        settings.finalizationParams other = .error error) ∨
      ∃ params otherParams, settings.finalizationParams ticket = .ok params ∧
        settings.finalizationParams other = .ok otherParams ∧ params.Alike otherParams := by
  unfold finalizationParams
  cases settings.validate with
  | error error => exact .inl ⟨error, rfl, rfl⟩
  | ok =>
      dsimp only
      rw [alike.isComplete]
      cases ticket.isComplete with
      | false => exact .inl ⟨_, rfl, rfl⟩
      | true => exact .inr ⟨_, _, rfl, rfl, ⟨alike.inviteCode, alike.missing, rfl, rfl⟩⟩

end Session

/-- The results are the same but for the passcode of a ticket. -/
inductive ResultsAlike : Result → Result → Prop where
  | same (result : Result) : ResultsAlike result result
  | session {outcome other : CreationOutcome} (alike : outcome.Alike other) :
      ResultsAlike (.ok (.session outcome)) (.ok (.session other))

/-- The calls are the same but for the passcode of a finalize. -/
inductive Gateway.Call.Alike : Call → Call → Prop where
  | same (call : Call) : Alike call call
  | finalizeGame {params other : FinalizationParams} (alike : params.Alike other) :
      Alike (.finalizeGame params) (.finalizeGame other)

/-- The actions are the same but for the passcode that a finalize waits with. -/
inductive Pending.Alike : Pending → Pending → Prop where
  | same (pending : Pending) : Alike pending pending
  | finalization {params other : FinalizationParams} (alike : params.Alike other) :
      Alike (.finalization params) (.finalization other)

theorem Pending.Alike.call {pending other : Pending} (alike : pending.Alike other) :
    pending.call.Alike other.call := by
  cases alike with
  | same => exact .same _
  | finalization alike => exact .finalizeGame alike

theorem Pending.Alike.action {pending other : Pending} (alike : pending.Alike other) :
    other.action = pending.action := by
  cases alike <;> rfl

/-- The actions have come equally far. -/
inductive Progress.Alike : Progress → Progress → Prop where
  | finished (result : Result) : Alike (.finished result) (.finished result)
  | suspended {pending other : Pending} (alike : pending.Alike other) :
      Alike (.suspended pending) (.suspended other)

theorem Progress.Alike.refl (progress : Progress) : progress.Alike progress := by
  cases progress with
  | finished result => exact .finished result
  | suspended pending => exact .suspended (.same pending)

/-! ## Turns that are blind -/

namespace Core

/-- The core with this ticket in place of the one that it holds. -/
def holding (core : Core) (ticket : Option Ticket) : Core :=
  { core with session := { core.session with value := { core.session.value with ticket } } }

/-- The cores are the same, their cells with the versions, but for the passcode of the ticket that
is held. -/
structure Alike (core other : Core) : Prop where
  same : other = core.holding other.session.value.ticket
  ticket : Option.Rel Ticket.Alike core.session.value.ticket other.session.value.ticket

theorem alike_holding {core : Core} (ticket : Option Ticket)
    (alike : Option.Rel Ticket.Alike core.session.value.ticket ticket) :
    core.Alike (core.holding ticket) :=
  ⟨rfl, alike⟩

theorem Alike.exists_holding {core other : Core} (alike : core.Alike other) :
    ∃ ticket, other = core.holding ticket ∧
      Option.Rel Ticket.Alike core.session.value.ticket ticket :=
  ⟨_, alike.same, alike.ticket⟩

end Core

/-- The turns leave cores that are alike, the same log, and values that are related. -/
structure Turn.Alike {α : Type} (related : α → α → Prop) (turn other : Turn α) : Prop where
  core : turn.core.Alike other.core
  log : other.log = turn.log
  value : related turn.value other.value

namespace Core

variable {α : Type} {turn : Core → Turn α} {core other : Core}

/-- The turn does the same whatever ticket is held, and leaves it alone. -/
def Blind (turn : Core → Turn α) : Prop :=
  ∀ core ticket, turn (core.holding ticket) =
    { turn core with core := (turn core).core.holding ticket }

theorem Blind.ticket (blind : Blind turn) (core : Core) :
    (turn core).core.session.value.ticket = core.session.value.ticket :=
  congrArg (fun turn => turn.core.session.value.ticket) (blind core core.session.value.ticket)

theorem Blind.alike (blind : Blind turn) (alike : core.Alike other) {related : α → α → Prop}
    (refl : ∀ value, related value value) : (turn core).Alike related (turn other) := by
  obtain ⟨ticket, rfl, tickets⟩ := alike.exists_holding
  rw [blind core ticket]
  refine ⟨alike_holding ticket ?_, rfl, refl _⟩
  rwa [blind.ticket core]

section Holding

variable (core : Core) (ticket : Option Ticket)

theorem registry_holding : (core.holding ticket).registry = core.registry := rfl

theorem purchase_holding : (core.holding ticket).purchase = core.purchase := rfl

theorem feed_holding : (core.holding ticket).feed = core.feed := rfl

theorem acquire_holding (action : Action) :
    (core.holding ticket).acquire action =
      (core.acquire action).map fun taken => taken.holding ticket := by
  have latches : (core.holding ticket).latches = core.latches := rfl
  simp only [acquire, latches]
  cases (core.latches.get action).tryAcquire <;> rfl

theorem release_holding (action : Action) :
    (core.holding ticket).release action = (core.release action).holding ticket := by
  cases action <;> rfl

end Holding

/-- Every action begins by taking its latch, and is blind if the rest of it is. -/
theorem blind_acquiring (action : Action) {rest : Core → Turn Progress} (blind : Blind rest) :
    Blind fun core =>
      match core.acquire action with
      | .error pending => .turnedAway core pending
      | .ok taken => rest taken := by
  intro core ticket
  simp only [acquire_holding]
  cases core.acquire action with
  | error => rfl
  | ok taken => exact blind taken ticket

/-- A turn that distinguishes two cases, but not by the ticket, is blind if it is in both. -/
theorem Blind.ite {condition : Core → Prop} [∀ core, Decidable (condition core)]
    {otherTurn : Core → Turn α}
    (same : ∀ core ticket, condition (core.holding ticket) ↔ condition core) (first : Blind turn)
    (second : Blind otherTurn) :
    Blind fun core => if condition core then turn core else otherTurn core := by
  intro core ticket
  by_cases holds : condition core
  · simp only [(same core ticket).mpr holds, holds, if_true, first core ticket]
  · simp only [mt (same core ticket).mp holds, holds, if_false, second core ticket]

theorem blind_startCreation (request : Session.CreationRequest) :
    Blind fun core => core.startCreation request := by
  apply blind_acquiring
  intro core ticket
  cases request.validated <;> rfl

theorem blind_deselect : Blind deselect := by
  apply blind_acquiring
  intro core ticket
  obtain ⟨config, registry, ⟨session, version⟩, feed, chat, purchase, latches⟩ := core
  obtain ⟨phase, held, creating, finalizing, switching, lastError⟩ := session
  cases phase <;> rfl

theorem blind_startSwitch (target : String) : Blind fun core => core.startSwitch target := by
  apply blind_acquiring
  apply Blind.ite
  · exact fun _ _ => .rfl
  · exact fun _ _ => rfl
  · exact Blind.ite (fun _ _ => .rfl) (fun _ _ => rfl) fun _ _ => rfl

theorem blind_startSchemaLoad : Blind startSchemaLoad := by
  apply blind_acquiring
  intro core ticket
  simp only [purchase_holding]
  cases core.purchase.value.schema <;> rfl

theorem blind_startOffer (player : PlayerId) (purchaseData : Payload) :
    Blind fun core => core.startOffer player purchaseData := by
  apply blind_acquiring
  apply Blind.ite
  · exact fun _ _ => .rfl
  · exact fun _ _ => rfl
  · exact Blind.ite (fun _ _ => .rfl) (fun _ _ => rfl) fun _ _ => rfl

/-- An action whose call failed takes back what it wrote, and leaves the ticket alone. -/
theorem blind_failed (pending : Pending) (failure : Gateway.Failure) :
    Blind fun core => core.resume pending (.error failure) := by
  intro core ticket
  rcases pending with ⟨_ | _, _⟩ | _ | _ | _ | _ <;> rfl

theorem blind_switched (target : String) : Blind fun core => core.switched target := by
  intro core ticket
  simp only [switched, registry_holding]
  cases core.registry.value.setActive (some target) <;> rfl

theorem blind_schemaLoaded (schema : PurchaseSchema) : Blind fun core => core.schemaLoaded schema :=
  fun _ _ => rfl

theorem blind_offerTaken (offer : PurchaseOffer) : Blind fun core => core.offerTaken offer :=
  fun _ _ => rfl

theorem blind_pushRegistry (snapshot : RegistrySnapshot) :
    Blind fun core => core.pushRegistry snapshot :=
  fun _ _ => rfl

theorem blind_pushChat (messages : List Chat.Message) :
    Blind fun core => core.pushChat messages := by
  intro core ticket
  simp only [pushChat, feed_holding]
  rcases core.feed.applySnapshot Chat.Digest.ofSnapshot messages with ⟨feed, _ | _⟩ <;> rfl

/-! ## Turns of alike cores -/

/-- Alike cores finalize with alike parameters, or have the same complaint. -/
theorem paramsFor_alike {session : Session} {ticket : Option Ticket} (settings : GameSettings)
    (alike : Option.Rel Ticket.Alike session.ticket ticket) :
    (∃ error, paramsFor session settings = .error error ∧
        paramsFor { session with ticket } settings = .error error) ∨
      ∃ params otherParams, paramsFor session settings = .ok params ∧
        paramsFor { session with ticket } settings = .ok otherParams ∧
        params.Alike otherParams := by
  unfold paramsFor
  dsimp only
  split
  · cases held : session.ticket with
    | none =>
        rw [held] at alike
        cases alike
        exact .inl ⟨_, rfl, rfl⟩
    | some first =>
        rw [held] at alike
        cases alike with
        | some alike => exact settings.finalizationParams_alike alike
  · exact .inl ⟨_, rfl, rfl⟩

theorem Alike.startFinalization (alike : core.Alike other) (settings : GameSettings) :
    (core.startFinalization settings).Alike Progress.Alike (other.startFinalization settings) := by
  obtain ⟨ticket, rfl, tickets⟩ := alike.exists_holding
  unfold Core.startFinalization
  cases taken : core.held .finalize with
  | true =>
      have otherTaken : (core.holding ticket).held .finalize = true := taken
      rw [acquire_of_held taken, acquire_of_held otherTaken]
      exact ⟨alike, rfl, .finished _⟩
  | false =>
      have otherTaken : (core.holding ticket).held .finalize = false := taken
      rw [acquire_of_free taken, acquire_of_free otherTaken]
      have session : (core.latched .finalize).session.value = core.session.value := rfl
      have otherSession : ((core.holding ticket).latched .finalize).session.value =
          { core.session.value with ticket } := rfl
      dsimp only
      rw [session, otherSession]
      rcases paramsFor_alike settings tickets with ⟨error, first, second⟩ |
        ⟨params, otherParams, first, second, params_alike⟩
      · rw [first, second]
        exact ⟨alike_holding ticket tickets, rfl, .finished _⟩
      · rw [first, second]
        refine ⟨alike_holding ticket tickets, ?_, .suspended (.finalization params_alike)⟩
        dsimp only
        rw [params_alike.inviteCode, params_alike.finishTimeMs, params_alike.startAmount]

/-- Giving up an action keeps cores alike. -/
theorem Alike.abandon (alike : core.Alike other) {pending otherPending : Pending}
    (pendings : pending.Alike otherPending) :
    (core.abandon pending).Alike (other.abandon otherPending) := by
  obtain ⟨ticket, rfl, tickets⟩ := alike.exists_holding
  unfold Core.abandon
  rw [pendings.action, release_holding]
  refine alike_holding ticket ?_
  rwa [ticket_release]

/-- Starting a command keeps cores alike. -/
theorem Alike.start (alike : core.Alike other) (command : Command) :
    (core.start command).Alike Progress.Alike (other.start command) := by
  cases command with
  | createOrJoin request => exact (blind_startCreation request).alike alike .refl
  | finalize settings => exact alike.startFinalization settings
  | finalizeWithDefaults =>
      have config : other.config = core.config := by
        rw [alike.same]
        rfl
      show Turn.Alike _ _ (other.startFinalization other.config.finalize)
      rw [config]
      exact alike.startFinalization core.config.finalize
  | switch target =>
      show Turn.Alike _ (if target = "" then _ else _) (if target = "" then _ else _)
      split
      · exact blind_deselect.alike alike .refl
      · exact (blind_startSwitch target).alike alike .refl
  | loadSchema => exact blind_startSchemaLoad.alike alike .refl
  | offer player purchaseData => exact (blind_startOffer player purchaseData).alike alike .refl

end Core

/-- What the backend says to two calls that are alike: the same, but for the passcode of a ticket.
-/
inductive Gateway.AnswersAlike :
    (call other : Call) → Option call.Answer → Option other.Answer → Prop where
  | same {call : Call} (answer : Option call.Answer) : AnswersAlike call call answer answer
  | granted {nickname : String} {ticket other : Ticket} (alike : ticket.Alike other) :
      AnswersAlike (.makeNewGame nickname) (.makeNewGame nickname) (some (.ok ticket))
        (some (.ok other))
  | finalized {params other : FinalizationParams}
      (answer : Option (Except Gateway.Failure Unit)) :
      AnswersAlike (.finalizeGame params) (.finalizeGame other) answer answer

theorem Gateway.AnswersAlike.none_or_some {call other : Call} {answer : Option call.Answer}
    {otherAnswer : Option other.Answer} (alike : AnswersAlike call other answer otherAnswer) :
    answer = none ∧ otherAnswer = none ∨
      ∃ said otherSaid, answer = some said ∧ otherAnswer = some otherSaid := by
  cases alike with
  | same answer | finalized answer =>
      cases answer with
      | none => exact .inl ⟨rfl, rfl⟩
      | some said => exact .inr ⟨said, said, rfl, rfl⟩
  | granted => exact .inr ⟨_, _, rfl, rfl⟩

namespace Core

variable {core other : Core}

theorem Alike.created (alike : core.Alike other) {ticket otherTicket : Ticket}
    (tickets : ticket.Alike otherTicket) :
    (core.created ticket).Alike ResultsAlike (other.created otherTicket) := by
  obtain ⟨held, rfl, -⟩ := alike.exists_holding
  refine ⟨alike_holding (some otherTicket) (.some tickets), ?_, .session (.created tickets)⟩
  show [_] = [_]
  rw [tickets.inviteCode]

theorem Alike.joined (alike : core.Alike other) :
    core.joined.Alike ResultsAlike other.joined := by
  obtain ⟨held, rfl, -⟩ := alike.exists_holding
  exact ⟨alike_holding none .none, rfl, .same _⟩

theorem Alike.finalized (alike : core.Alike other) {params otherParams : FinalizationParams}
    (code : otherParams.inviteCode = params.inviteCode) :
    (core.finalized params).Alike ResultsAlike (other.finalized otherParams) := by
  obtain ⟨held, rfl, tickets⟩ := alike.exists_holding
  unfold Core.finalized
  rw [code]
  refine ⟨alike_holding (held.filter fun ticket => ticket.inviteCode ≠ params.inviteCode) ?_, rfl,
    .same _⟩
  show Option.Rel _ (core.session.value.ticket.filter _) (held.filter _)
  generalize core.session.value.ticket = first at tickets
  cases tickets with
  | none => exact .none
  | some tickets =>
      simp only [Option.filter_some, tickets.inviteCode]
      split
      · exact .some tickets
      · exact .none

/-- An action that is answered the same keeps cores alike. -/
theorem Alike.resume_same (alike : core.Alike other) (pending : Pending)
    (answer : pending.call.Answer) :
    (core.resume pending answer).Alike ResultsAlike (other.resume pending answer) := by
  match pending, answer with
  | pending, .error failure => exact (blind_failed pending failure).alike alike .same
  | .creation (.new _) _, .ok ticket => exact alike.created (.refl ticket)
  | .creation (.join ..) _, .ok () => exact alike.joined
  | .finalization _, .ok () => exact alike.finalized rfl
  | .switching target, .ok () => exact (blind_switched target).alike alike .same
  | .schemaLoad, .ok schema => exact (blind_schemaLoaded schema).alike alike .same
  | .offering offer, .ok () => exact (blind_offerTaken offer).alike alike .same

/-- So does one that is answered alike. -/
theorem Alike.resume (alike : core.Alike other) {pending otherPending : Pending}
    (pendings : pending.Alike otherPending) {answer : pending.call.Answer}
    {otherAnswer : otherPending.call.Answer}
    (answers : Gateway.AnswersAlike pending.call otherPending.call (some answer)
      (some otherAnswer)) :
    (core.resume pending answer).Alike ResultsAlike (other.resume otherPending otherAnswer) := by
  cases pendings with
  | finalization params =>
      cases answers with
      | same | finalized =>
          cases answer with
          | ok => exact alike.finalized params.inviteCode
          | error failure => exact alike.resume_same _ (.error failure)
  | same =>
      cases pending with
      | creation request prior =>
          cases request with
          | new nickname =>
              cases answers with
              | same => exact alike.resume_same _ _
              | granted tickets => exact alike.created tickets
          | join => cases answers; exact alike.resume_same _ _
      | _ => cases answers <;> exact alike.resume_same _ _

end Core

/-! ## Texts -/

namespace Core.Alike

variable {core other : Core}

theorem inspect_ticket (alike : core.Alike other) :
    inspect other.session.value.ticket = inspect core.session.value.ticket := by
  have tickets := alike.ticket
  generalize core.session.value.ticket = ticket, other.session.value.ticket = otherTicket at tickets
  cases tickets with
  | none => rfl
  | some tickets => exact congrArg (Text.inspectWrapped "Some") tickets.inspect_eq

theorem inspect_session (alike : core.Alike other) :
    inspect other.session.value = inspect core.session.value := by
  have ticket := alike.inspect_ticket
  rw [alike.same] at ticket ⊢
  show Text.inspectRecord "SessionState" _ = Text.inspectRecord "SessionState" _
  rw [ticket]
  rfl

theorem inspect_core (alike : core.Alike other) : inspect other = inspect core := by
  have session := alike.inspect_session
  rw [alike.same] at session ⊢
  show Text.inspectOpenRecord "AppCore" [_, _, ("session", Text.inspectRecord "Dynamic"
    [("value", inspect (core.holding _).session.value), _]), _] = _
  rw [session]
  rfl

end Core.Alike

end GameClient
