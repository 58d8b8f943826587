import GameClient.Proofs.AllowedCalls
import GameClient.Proofs.Standing

/-!
# Finalizing is offered when it can be done

The view offers finalizing by what it shows: the phase, the flag and the ticket. A finalize that is
started decides by its latch, the phase, the ticket and its settings. With positive numbers the two
come to the same, since in every run the flag is shown exactly while the latch is held.

The settings of the configuration are positive, for no core is made with others, and they stay what
they are. So a finalize with these settings calls exactly when finalizing is offered, and it never
complains about them. The main statement is `offered_iff_calls`.
-/

namespace GameClient

open Session (GameSettings)

/-! ## What is offered -/

theorem Session.canFinalize_eq_true_iff {session : Session} :
    session.canFinalize = true ↔
      session.finalizing = false ∧ session.phase = .awaitingFinalization ∧
        ∃ ticket, session.ticket = some ticket ∧ ticket.isComplete = true := by
  unfold canFinalize
  rw [Bool.and_eq_true, Bool.and_eq_true, decide_eq_true_eq, Bool.not_eq_true',
    Option.any_eq_true_iff_get]
  constructor
  · rintro ⟨⟨awaiting, hidden⟩, held, complete⟩
    exact ⟨hidden, awaiting, _, (Option.some_get held).symm, complete⟩
  · rintro ⟨hidden, awaiting, ticket, held, complete⟩
    refine ⟨⟨awaiting, hidden⟩, ?_⟩
    simp [held, complete]

namespace Core

variable {core after : Core} {command : Command} {settings : GameSettings}

/-- With valid settings only the phase and the ticket decide on a call to finalize. -/
theorem allows_finalize_iff (asks : command.settings? core.config = some settings)
    (valid : settings.validate = .ok ()) :
    (∃ params, core.Allows command (.finalizeGame params)) ↔
      core.session.value.phase = .awaitingFinalization ∧
        ∃ ticket, core.session.value.ticket = some ticket ∧ ticket.isComplete = true := by
  constructor
  · rintro ⟨params, allows⟩
    cases allows with
    | finalizing _ awaiting held usable =>
        exact ⟨awaiting, _, held, (GameSettings.usable_paramsWith_iff.mp usable).2⟩
  · rintro ⟨awaiting, ticket, held, complete⟩
    have usable := GameSettings.usable_paramsWith_iff.mpr ⟨valid, complete⟩
    exact ⟨_, .finalizing asks awaiting held usable⟩

/-! ## Complaints about numbers -/

theorem paramsFor_error_cases {session : Session} {error : ValidationError}
    (unfit : paramsFor session settings = .error error) :
    error = .notAwaitingFinalization session.phase.text ∨ error = .missingCredentials ∨
      settings.validate = .error error := by
  unfold paramsFor at unfit
  split at unfit
  · split at unfit
    · exact .inr (.inl (Except.error.inj unfit).symm)
    · unfold GameSettings.finalizationParams at unfit
      split at unfit
      · next invalid =>
          obtain rfl := Except.error.inj unfit
          exact .inr (.inr invalid)
      · split at unfit
        · cases unfit
        · exact .inr (.inl (Except.error.inj unfit).symm)
  · exact .inl (Except.error.inj unfit).symm

theorem validated_error_cases {request : Session.CreationRequest} {error : ValidationError}
    (invalid : request.validated = .error error) :
    error = .missingNickname ∨ error = .missingInviteCode := by
  unfold Session.CreationRequest.validated at invalid
  split at invalid
  · split at invalid
    · exact .inl (Except.error.inj invalid).symm
    · cases invalid
  · split at invalid
    · exact .inl (Except.error.inj invalid).symm
    · split at invalid
      · exact .inr (Except.error.inj invalid).symm
      · cases invalid

/-- A command that complains about its numbers finalizes, and its settings are not valid. -/
theorem Started.settings_of_nonPositive {error : ValidationError}
    (started : Started core command after (.finished (.error (.validation error))))
    (nonPositive : error ∈ [.nonPositiveFinishTime, .nonPositiveStartAmount]) :
    ∃ settings, command.settings? core.config = some settings ∧
      settings.validate = .error error := by
  cases started with
  | refused _ refuses =>
      cases refuses with
      | creation invalid =>
          rcases validated_error_cases invalid with rfl | rfl <;> simp at nonPositive
      | finalization asks unfit =>
          rcases paramsFor_error_cases unfit with rfl | rfl | invalid
          · simp at nonPositive
          · simp at nonPositive
          · exact ⟨_, asks, invalid⟩
      | switch => simp at nonPositive
  | offerRefused _ unfit =>
      rcases unfit with ⟨-, rfl⟩ | ⟨-, -, rfl⟩ <;> simp at nonPositive

end Core

/-! ## The settings of the configuration -/

/-- A core is only made with settings that are valid. -/
theorem Client.valid_of_new {config : Config} {client : Client}
    (new : Client.new config = .ok client) : config.finalize.validate = .ok () := by
  unfold Client.new Core.new Config.validate at new
  cases valid : config.finalize.validate with
  | ok _ => rfl
  | error error => simp [valid] at new

/-! ## The main statement -/

/-- A client offers finalizing exactly when it can be done. -/
structure Client.OffersFinalizing (client : Client) : Prop where
  /-- Finalizing is offered exactly if a finalize that is started now, with any positive numbers,
  makes its call. -/
  settings : ∀ settings gateway, 0 < settings.finishTimeMs → 0 < settings.startAmount →
    (client.core.session.value.canFinalize = true ↔
      ∃ params, (client.step (.start (.finalize settings) gateway)).2.issued =
        some (.finalizeGame params))
  /-- The same holds of a finalize with the settings of the configuration. -/
  defaults : ∀ gateway,
    client.core.session.value.canFinalize = true ↔
      ∃ params, (client.step (.start .finalizeWithDefaults gateway)).2.issued =
        some (.finalizeGame params)
  /-- Only who is given other settings, and these are not positive, complains about them. -/
  nonPositive : ∀ step error, error ∈ [.nonPositiveFinishTime, .nonPositiveStartAmount] →
    (client.step step).2.outcome = .completed (.error (.validation error)) →
      ∃ settings gateway, step = .start (.finalize settings) gateway ∧
        settings.validate = .error error

theorem Client.canFinalize_iff_issued {client : Client}
    (agree : Agreement client.core client.waiting) {command : Command} {settings : GameSettings}
    (asks : command.settings? client.core.config = some settings)
    (valid : settings.validate = .ok ()) (gateway : Gateway) :
    client.core.session.value.canFinalize = true ↔
      ∃ params, (client.step (.start command gateway)).2.issued = some (.finalizeGame params) := by
  have flag : client.core.session.value.finalizing = client.core.held .finalize :=
    agree.flag .finalize
  rw [Session.canFinalize_eq_true_iff, flag, ← Core.allows_finalize_iff asks valid]
  constructor
  · rintro ⟨free, params, allows⟩
    rw [← Core.action_of_settings asks] at free
    exact ⟨params, Client.issued_iff_allows.mpr ⟨command, gateway, rfl, free, allows⟩⟩
  · rintro ⟨params, issued⟩
    obtain ⟨_, _, same, free, allows⟩ := Client.issued_iff_allows.mp issued
    obtain ⟨rfl, -⟩ := Client.Step.start.inj same
    rw [Core.action_of_settings asks] at free
    exact ⟨free, params, allows⟩

/-- **The button and the action.** In every state of every run finalizing is offered exactly if a
finalize with positive numbers, or with the settings of the configuration, makes its call; and a
finalize with the settings of the configuration never complains about its numbers. -/
theorem offered_iff_calls {config : Config} {client : Client}
    (new : Client.new config = .ok client) (steps : List Client.Step) :
    (client.run steps).OffersFinalizing := by
  have reached := Client.reached new steps
  have agree := agreement_of_reached reached
  have same := config_of_reached reached
  have valid := Client.valid_of_new new
  rw [← same] at valid
  refine ⟨?_, ?_, ?_⟩
  · intro settings gateway time amount
    have positive := GameSettings.validate_eq_ok_iff.mpr ⟨time, amount⟩
    exact Client.canFinalize_iff_issued agree rfl positive gateway
  · intro gateway
    exact Client.canFinalize_iff_issued agree rfl valid gateway
  · intro step error nonPositive complaint
    rcases Client.cases_of_completed complaint with ⟨command, gateway, _, rfl, started, -⟩ | after
    · obtain ⟨settings, asks, invalid⟩ := started.settings_of_nonPositive nonPositive
      cases command with
      | finalize given =>
          obtain rfl := Option.some.inj asks
          exact ⟨given, gateway, rfl, invalid⟩
      | finalizeWithDefaults =>
          obtain rfl := Option.some.inj asks
          rw [valid] at invalid
          cases invalid
      | _ => cases asks
    · obtain ⟨core, pending, answer, last, settled⟩ := after
      exact absurd rfl (settled.ne_validation error)

/-- While a finalize is under way a second game is created. The session waits to be finalized with a
complete ticket, and still finalizing is not offered. -/
theorem not_offered_while_under_way :
    ((Client.fresh {}).run
      [.create .willing, .finalize .silent, .create .willing]).core.session.value =
        { phase := .awaitingFinalization, ticket := some ⟨"ABC123", "XYZ"⟩, finalizing := true } ∧
    ¬ ∃ params, (((Client.fresh {}).run
      [.create .willing, .finalize .silent, .create .willing]).step
        (.start .finalizeWithDefaults .silent)).2.issued = some (.finalizeGame params) := by
  refine ⟨rfl, fun calls => ?_⟩
  have offers := offered_iff_calls Client.new_default
    [.create .willing, .finalize .silent, .create .willing]
  have offered := (offers.defaults .silent).mpr calls
  cases offered

end GameClient
