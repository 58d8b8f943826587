import GameClient.Proofs.DistinctGames
import GameClient.Proofs.Selection

/-!
# No change goes unnoticed

A reader of a view learns of a change by the version of its cell. So every change has to raise the
version, and this is up to those writes that decide for themselves whether they count: the one that
clears a flag, the deselect, the switch that selects a game, and the snapshot of the registry. All
of them are honest: when they say that nothing has changed, nothing has (`Cell.Grows.updateIf`). Of
a snapshot this needs that the registry knows each game once, and of a switch that its target is
named; both hold in every run.

So between any two moments of a run a cell has gone through as many writes as its version was raised
by, and was not changed otherwise (`Client.written_of_run`). As long as the version does not come
round, equal versions mean equal values, and a reader that is told of no change has missed none. The
main statement is `no_missed_notification`.
-/

namespace GameClient

/-! ## Cells and their writes -/

namespace Cell

variable {α : Type} {first cell last : Cell α} {count more bound : Nat}

/-- The cell has come from another one by so many writes. -/
inductive Written (first : Cell α) : Nat → Cell α → Prop where
  | unwritten : Written first 0 first
  | write {count : Nat} {cell : Cell α} (before : Written first count cell) (value : α) :
      Written first (count + 1) (cell.set value)

theorem Written.trans (before : first.Written count cell) (after : cell.Written more last) :
    first.Written (count + more) last := by
  induction after with
  | unwritten => exact before
  | write _ value ih => exact .write ih value

theorem Written.version (written : first.Written count cell) :
    cell.version = first.version + UInt64.ofNat count := by
  induction written with
  | unwritten => simp
  | write _ value ih =>
      rw [version_set, ih, UInt64.ofNat_add, UInt64.add_assoc]
      rfl

/-- Writes that do not raise the version come round, or there are none. -/
theorem Written.eq_of_version_eq (written : first.Written count cell) (few : count < UInt64.size)
    (same : cell.version = first.version) : cell = first := by
  have raised := congrArg UInt64.toNat written.version
  rw [same, UInt64.toNat_add, UInt64.toNat_ofNat'] at raised
  have none : count = 0 := by
    have small := first.version.toNat_lt
    unfold UInt64.size at few
    omega
  subst none
  cases written
  rfl

/-- The cell has come from another one by at most so many writes. -/
def Grows (bound : Nat) (first cell : Cell α) : Prop := ∃ count ≤ bound, first.Written count cell

namespace Grows

theorem refl (cell : Cell α) : Grows bound cell cell := ⟨0, Nat.zero_le _, .unwritten⟩

theorem of_eq (same : cell = first) : Grows bound first cell := same ▸ refl _

theorem mono (grows : Grows bound first cell) {larger : Nat} (le : bound ≤ larger) :
    Grows larger first cell :=
  let ⟨count, few, written⟩ := grows
  ⟨count, Nat.le_trans few le, written⟩

theorem trans {further : Nat} (before : Grows bound first cell) (after : Grows further cell last) :
    Grows (bound + further) first last := by
  obtain ⟨count, few, written⟩ := before
  obtain ⟨more, fewMore, writtenMore⟩ := after
  exact ⟨count + more, Nat.add_le_add few fewMore, written.trans writtenMore⟩

theorem set (grows : Grows bound first cell) (value : α) :
    Grows (bound + 1) first (cell.set value) :=
  grows.trans ⟨1, Nat.le_refl _, .write .unwritten value⟩

theorem update (grows : Grows bound first cell) (change : α → α) :
    Grows (bound + 1) first (cell.update change) :=
  grows.set _

/-- A write that decides for itself whether it counts is honest: it counts if it makes a
difference. -/
theorem updateIf (grows : Grows bound first cell) {change : α → α × Bool}
    (honest : (change cell.value).2 = false → (change cell.value).1 = cell.value) :
    Grows (bound + 1) first (cell.updateIf change).1 := by
  cases changed : (change cell.value).2 with
  | true =>
      have written : (cell.updateIf change).1 = cell.set (change cell.value).1 := by
        simp only [Cell.updateIf, changed, if_true, Cell.set]
      rw [written]
      exact grows.set _
  | false =>
      have kept : (cell.updateIf change).1 = cell := by
        simp only [Cell.updateIf, changed, honest changed, Bool.false_eq_true, if_false]
      rw [kept]
      exact grows.mono (Nat.le_succ _)

end Grows

end Cell

/-! ## Writes of a turn -/

namespace Core

open Cell (Grows)

variable {core after : Core} {α : Type}

theorem grows_updateSession {bound : Nat} {first : Cell Session}
    (grows : Grows bound first core.session) (change : Session → Session) :
    Grows (bound + 1) first (core.updateSession change).session :=
  grows.update change

theorem grows_surface {bound : Nat} {first : Cell Session} (grows : Grows bound first core.session)
    (error : ActionError) : Grows (bound + 1) first (core.surface error).session :=
  grows_updateSession grows _

theorem grows_updatePurchase {bound : Nat} {first : Cell Purchase}
    (grows : Grows bound first core.purchase) (change : Purchase → Purchase) :
    Grows (bound + 1) first (core.updatePurchase change).purchase :=
  grows.update change

/-- Releasing writes the session, which counts, or leaves it as it is. -/
theorem session_release_cases (core : Core) (action : Action) :
    (core.release action).session = core.session ∨
      ∃ value, (core.release action).session = core.session.set value := by
  cases shown : core.flag action with
  | false =>
      rw [release_of_hidden shown]
      exact .inl rfl
  | true =>
      obtain ⟨config, registry, ⟨session, _⟩, feed, chat, purchase, latches⟩ := core
      obtain ⟨phase, ticket, creating, finalizing, switching, lastError⟩ := session
      cases action with
      | loadPurchaseSchema => exact .inl rfl
      | purchaseOffer => exact .inl rfl
      | _ => cases shown; exact .inr ⟨_, rfl⟩

theorem purchase_release_cases (core : Core) (action : Action) :
    (core.release action).purchase = core.purchase ∨
      ∃ value, (core.release action).purchase = core.purchase.set value := by
  cases shown : core.flag action with
  | false =>
      rw [release_of_hidden shown]
      exact .inl rfl
  | true =>
      obtain ⟨config, registry, session, feed, chat, ⟨purchase, _⟩, latches⟩ := core
      obtain ⟨schema, loadingSchema, submitting, offersSent⟩ := purchase
      cases action with
      | loadPurchaseSchema => cases shown; exact .inr ⟨_, rfl⟩
      | purchaseOffer => cases shown; exact .inr ⟨_, rfl⟩
      | _ => exact .inl rfl

theorem grows_session_release {bound : Nat} {first : Cell Session}
    (grows : Grows bound first core.session) (action : Action) :
    Grows (bound + 1) first (core.release action).session := by
  rcases core.session_release_cases action with same | ⟨value, written⟩
  · rw [same]
    exact grows.mono (Nat.le_succ _)
  · rw [written]
    exact grows.set value

theorem grows_purchase_release {bound : Nat} {first : Cell Purchase}
    (grows : Grows bound first core.purchase) (action : Action) :
    Grows (bound + 1) first (core.release action).purchase := by
  rcases core.purchase_release_cases action with same | ⟨value, written⟩
  · rw [same]
    exact grows.mono (Nat.le_succ _)
  · rw [written]
    exact grows.set value

/-- Deselecting counts exactly if a game is selected. -/
theorem clearActive_honest {registry : Registry} (unchanged : registry.clearActive.2 = false) :
    registry.clearActive.1 = registry := by
  have none : registry.active = none := by simpa [Registry.clearActive] using unchanged
  show { registry with active := Option.none } = registry
  rw [← none]

/-- Selecting a game counts exactly if it is not selected already. -/
theorem select_honest {registry : Registry} {target : String} (named : target ≠ "")
    (unchanged : (select target registry).2 = false) : (select target registry).1 = registry := by
  unfold select at unchanged ⊢
  split at unchanged
  · next selected known =>
      obtain ⟨-, rfl⟩ := (Registry.setActive_eq_ok_iff named).mp known
      have same : registry.active = some target := by simpa using unchanged
      simp only [← same]
  · rfl

theorem chat_release (core : Core) (action : Action) : (core.release action).chat = core.chat := by
  cases action <;> rfl

/-- The most writes of a cell in one turn. -/
def mostWrites : Nat := 3

/-- Every turn changes a view by writes that count, and by few of them. -/
structure Announces (view : Core → Cell α) : Prop where
  fresh : ∀ config, (view (Core.fresh config)).version = 0
  started : ∀ {core after : Core} {command : Command} {progress : Progress},
    core.Started command after progress → Grows mostWrites (view core) (view after)
  settled : ∀ {core after : Core} {pending : Pending} {answer : pending.call.Answer}
    {result : Result}, (∀ target, pending = .switching target → target ≠ "") →
      core.Settled pending answer after result → Grows mostWrites (view core) (view after)
  abandoned : ∀ (core : Core) (pending : Pending),
    Grows mostWrites (view core) (view (core.abandon pending))
  pushedRegistry : ∀ (core : Core) (snapshot : RegistrySnapshot), core.registry.value.Distinct →
    Grows mostWrites (view core) (view (core.pushRegistry snapshot).core)
  pushedChat : ∀ (core : Core) (messages : List Chat.Message),
    Grows mostWrites (view core) (view (core.pushChat messages).core)

theorem announces_session : Announces (fun core => core.session) where
  fresh _ := rfl
  started := by
    intro core after command progress started
    have kept {bound : Nat} : Grows bound core.session core.session := .refl _
    cases started with
    | refused =>
        apply grows_session_release
        apply grows_surface
        exact kept
    | offerRefused | schemaKept =>
        apply grows_session_release
        exact kept
    | deselected free =>
        simp only [deselect, acquire_of_free free]
        show Grows mostWrites core.session (core.session.updateIf fun s =>
          if s.phase = .active then ({ s with phase := .idle }, true) else (s, false)).1
        -- A session that is not active is left as it is, so that no write goes unannounced.
        apply Grows.updateIf kept
        intro unchanged
        split at unchanged
        · cases unchanged
        · next other => rw [if_neg other]
    | creating | finalizing | switching =>
        apply grows_updateSession
        exact kept
    | turnedAway | loading | offering => exact kept
  settled := by
    intro core after pending answer result _ settled
    have kept {bound : Nat} : Grows bound core.session core.session := .refl _
    cases settled with
    | switched known =>
        simp only [Core.switched, known]
        apply grows_session_release
        apply grows_updateSession
        exact kept
    | vanished unknown =>
        simp only [Core.switched, unknown]
        apply grows_session_release
        apply grows_surface
        apply grows_updateSession
        exact kept
    | creationFailed | finalizationFailed | switchFailed =>
        apply grows_session_release
        apply grows_surface
        apply grows_updateSession
        exact kept
    | created | joined | finalized =>
        apply grows_session_release
        apply grows_updateSession
        exact kept
    | _ =>
        apply grows_session_release
        exact kept
  abandoned core pending := grows_session_release (.refl _) _
  pushedRegistry _ _ _ := .refl _
  pushedChat core messages := .of_eq (session_pushChat core messages)

theorem announces_purchase : Announces (fun core => core.purchase) where
  fresh _ := rfl
  started := by
    intro core after command progress started
    have kept {bound : Nat} : Grows bound core.purchase core.purchase := .refl _
    cases started with
    | deselected free => exact .of_eq (purchase_deselect free)
    | refused | offerRefused | schemaKept =>
        apply grows_purchase_release
        exact kept
    | loading | offering =>
        apply grows_updatePurchase
        exact kept
    | _ => exact kept
  settled := by
    intro core after pending answer result _ settled
    have kept {bound : Nat} : Grows bound core.purchase core.purchase := .refl _
    cases settled with
    | switched known =>
        simp only [Core.switched, known]
        exact kept
    | vanished unknown =>
        simp only [Core.switched, unknown]
        exact kept
    | schemaLoaded | schemaLoadFailed | offerTaken | offerFailed =>
        apply grows_purchase_release
        apply grows_updatePurchase
        exact kept
    | _ => exact kept
  abandoned core pending := grows_purchase_release (.refl _) _
  pushedRegistry _ _ _ := .refl _
  pushedChat core messages := .of_eq (purchase_pushChat core messages)

theorem announces_registry : Announces (fun core => core.registry) where
  fresh _ := rfl
  started := by
    intro core after command progress started
    have kept {bound : Nat} : Grows bound core.registry core.registry := .refl _
    cases started with
    | deselected free =>
        simp only [deselect, acquire_of_free free]
        show Grows mostWrites core.registry (core.registry.updateIf Registry.clearActive).1
        exact Grows.updateIf kept clearActive_honest
    | turnedAway => exact kept
    | refused => exact .of_eq (registry_release _ _)
    | _ => exact kept
  settled := by
    intro core after pending answer result named settled
    have kept {bound : Nat} : Grows bound core.registry core.registry := .refl _
    cases settled with
    | switched known =>
        simp only [Core.switched, known]
        show Grows mostWrites core.registry (core.registry.updateIf (select _)).1
        exact Grows.updateIf kept (select_honest (named _ rfl))
    | vanished unknown =>
        simp only [Core.switched, unknown]
        exact kept
    | _ => exact kept
  abandoned core pending := .of_eq (registry_release core _)
  pushedRegistry core snapshot distinct := by
    show Grows mostWrites core.registry (core.registry.updateIf fun before =>
      (core.registry.value.applySnapshot snapshot,
        !(core.registry.value.applySnapshot snapshot).sameAs before)).1
    apply Grows.updateIf (.refl _)
    intro unchanged
    -- Games keep their places in a snapshot, so that what compares equal has not changed at all.
    rw [Bool.not_eq_false'] at unchanged
    exact Registry.eq_of_sameAs_applySnapshot distinct unchanged
  pushedChat core messages := .of_eq (registry_pushChat core messages)

theorem announces_chat : Announces (fun core => core.chat) where
  fresh _ := rfl
  started := by
    intro core after command progress started
    cases started with
    | deselected free =>
        simp only [deselect, acquire_of_free free]
        exact .of_eq rfl
    | refused => exact .of_eq (chat_release _ _)
    | _ => exact .of_eq rfl
  settled := by
    intro core after pending answer result _ settled
    cases settled with
    | switched known =>
        simp only [Core.switched, known]
        exact .of_eq rfl
    | vanished unknown =>
        simp only [Core.switched, unknown]
        exact .of_eq rfl
    | _ => exact .of_eq rfl
  abandoned core pending := .of_eq (chat_release core _)
  pushedRegistry _ _ _ := .of_eq rfl
  pushedChat core messages := by
    unfold pushChat
    split
    · exact .of_eq rfl
    · exact Grows.set (.refl _) _

end Core

/-! ## Writes of a run -/

theorem Moment.distinct_registryAfter {registry : Registry} (distinct : registry.Distinct)
    (moment : Moment) : (moment.registryAfter registry).Distinct := by
  unfold registryAfter
  split
  · exact Registry.distinct_applySnapshot distinct _
  · exact distinct
  · unfold Core.select
    split
    · next known => exact Registry.distinct_setActive distinct known
    · exact distinct
  · exact distinct

/-- In every state of every run the registry knows each game once. -/
theorem distinct_of_reached {config : Config} {past : List Moment} {core : Core}
    {waiting : List Pending} (reached : Reached config past core waiting) :
    core.registry.value.Distinct := by
  rw [Core.replays_registry.of_moves reached]
  clear reached
  induction past using List.reverseRecOn with
  | nil => exact List.nodup_nil
  | append_singleton past moment ih =>
      rw [List.foldl_concat]
      exact moment.distinct_registryAfter ih

namespace Client

open Cell (Grows)

variable {config : Config} {client : Client} {past : List Moment} {α : Type} {view : Core → Cell α}

/-- How often the cell of a view is written in a step, as its version tells. -/
def stepWrites (client : Client) (view : Core → Cell α) (step : Step) : Nat :=
  ((view (client.step step).1.core).version - (view client.core).version).toNat

/-- How often it is written in a run. -/
def writes (client : Client) (view : Core → Cell α) : List Step → Nat
  | [] => 0
  | step :: steps => client.stepWrites view step + (client.step step).1.writes view steps

theorem writes_append (client : Client) (view : Core → Cell α) (first second : List Step) :
    client.writes view (first ++ second) =
      client.writes view first + (client.run first).writes view second := by
  induction first generalizing client with
  | nil => exact (Nat.zero_add _).symm
  | cons step steps ih =>
      show client.stepWrites view step + (client.step step).1.writes view (steps ++ second) = _
      rw [ih, ← Nat.add_assoc]
      rfl

/-- A step is at most two turns. -/
theorem grows_of_step (announces : Core.Announces view) (runs : InRun config past client)
    (step : Step) :
    Grows (Core.mostWrites + Core.mostWrites) (view client.core)
      (view (client.step step).1.core) := by
  have stepped := client.stepped step
  generalize client.moments step = moments, (client.step step).1 = after,
    (client.step step).2.outcome = outcome at stepped
  cases stepped with
  | ended started => exact (announces.started started).mono (Nat.le_add_right _ _)
  | called started => exact (announces.started started).mono (Nat.le_add_right _ _)
  | answeredAtOnce started _ settled =>
      -- Two turns: the one that calls, and the one that is answered.
      refine (announces.started started).trans (announces.settled ?_ settled)
      rintro target rfl
      exact started.named_of_suspended
  | answered found _ settled =>
      refine (announces.settled ?_ settled).mono (Nat.le_add_right _ _)
      -- The switch that waits names a game: only then does a selection tell of every change.
      intro target switching
      apply named_of_reached runs.reached
      rw [← switching]
      exact List.mem_map_of_mem (mem_of_task? found)
  | unanswered => exact .refl _
  | nonePolled => exact .refl _
  | dropped => exact (announces.abandoned _ _).mono (Nat.le_add_right _ _)
  | noneDropped => exact .refl _
  | pushedRegistry =>
      exact (announces.pushedRegistry _ _ (distinct_of_reached runs.reached)).mono
        (Nat.le_add_right _ _)
  | pushedChat => exact (announces.pushedChat _ _).mono (Nat.le_add_right _ _)

/-- So the versions before and after it tell how many writes there were. -/
theorem written_of_step (announces : Core.Announces view) (runs : InRun config past client)
    (step : Step) :
    (view client.core).Written (client.stepWrites view step) (view (client.step step).1.core) := by
  obtain ⟨count, few, written⟩ := grows_of_step announces runs step
  have raised : client.stepWrites view step = count := by
    rw [stepWrites, written.version, UInt64.toNat_sub, UInt64.toNat_add, UInt64.toNat_ofNat']
    have small := (view client.core).version.toNat_lt
    have few : count ≤ 6 := few
    omega
  rwa [raised]

theorem written_of_run (announces : Core.Announces view) (runs : InRun config past client)
    (steps : List Step) :
    (view client.core).Written (client.writes view steps) (view (client.run steps).core) := by
  induction steps generalizing client past with
  | nil => exact .unwritten
  | cons step steps ih => exact (written_of_step announces runs step).trans (ih (runs.concat step))

end Client

/-! ## Readers -/

/-- A reader of a view: its subscription, and what it has seen last. -/
structure Reader (α : Type) where
  subscription : Subscription
  seen : α

namespace Reader

variable {α : Type}

/-- A reader that subscribes now has seen what there is. -/
def take (cell : Cell α) : Reader α := ⟨cell.subscribe, cell.value⟩

/-- The reader polls, and sees what it is given. -/
def poll (reader : Reader α) (cell : Cell α) : Reader α :=
  match reader.subscription.poll cell with
  | (some value, subscription) => ⟨subscription, value⟩
  | (none, subscription) => { reader with subscription }

/-- The reader looked last when the cell was like this. -/
structure Saw (reader : Reader α) (cell : Cell α) : Prop where
  version : reader.subscription.observed = cell.version
  value : reader.seen = cell.value

theorem saw_take (cell : Cell α) : (take cell).Saw cell := ⟨rfl, rfl⟩

/-- A poll gives the present value, or changes nothing. -/
theorem poll_cases (reader : Reader α) (cell : Cell α) :
    reader.poll cell = reader ∨ (reader.poll cell).Saw cell := by
  unfold poll Subscription.poll
  split
  · next polled =>
      split at polled
      · cases polled
        exact .inr ⟨rfl, rfl⟩
      · cases polled
  · next polled =>
      split at polled <;> cases polled
      exact .inl rfl

end Reader

namespace Client

variable {config : Config} {client : Client} {α : Type} {view : Core → Cell α} {reader : Reader α}

/-- The reader after polling at the end of each of some stretches of a run. -/
def follow (client : Client) (view : Core → Cell α) (reader : Reader α) :
    List (List Step) → Reader α
  | [] => reader
  | stretch :: stretches =>
    let after := client.run stretch
    after.follow view (reader.poll (view after.core)) stretches

/-- What such a reader has seen was there at some moment of the run. -/
theorem saw_of_follow {early done : List Step} (saw : reader.Saw (view (client.run early).core))
    (past : early <+: done) (stretches : List (List Step)) :
    ∃ latest, latest <+: done ++ stretches.flatten ∧
      ((client.run done).follow view reader stretches).Saw (view (client.run latest).core) := by
  induction stretches generalizing reader early done with
  | nil => exact ⟨early, past.trans (List.prefix_append _ _), saw⟩
  | cons stretch stretches ih =>
      rw [follow, ← run_append, List.flatten_cons, ← List.append_assoc]
      rcases reader.poll_cases (view (client.run (done ++ stretch)).core) with same | saw
      · rw [same]
        exact ih saw (past.trans (List.prefix_append _ _))
      · exact ih saw List.prefix_rfl

/-- As long as the version has not come round, it is the number of writes. -/
theorem version_of_run (announces : Core.Announces view) (new : Client.new config = .ok client)
    {steps : List Step} (few : client.writes view steps < UInt64.size) :
    (view (client.run steps).core).version.toNat = client.writes view steps := by
  have runs : InRun config [] client := inRun_of_new new []
  have start : (view client.core).version = 0 := by
    rw [eq_fresh_of_new new]
    exact announces.fresh config
  rw [(written_of_run announces runs steps).version, start, UInt64.zero_add,
    UInt64.toNat_ofNat_of_lt' few]

/-! ## The main statement -/

/-- What the version of a view tells in the runs of a client. -/
structure Notifies (client : Client) (view : Core → Cell α) : Prop where
  /-- The view changes by writes alone. -/
  written : ∀ steps,
    (view client.core).Written (client.writes view steps) (view (client.run steps).core)
  /-- While there are not too many, equal versions at two moments of a run mean equal values. -/
  unchanged : ∀ first second, client.writes view (first ++ second) < UInt64.size →
    (view (client.run (first ++ second)).core).version = (view (client.run first).core).version →
    (view (client.run (first ++ second)).core).value = (view (client.run first).core).value
  /-- And a reader that subscribes at any moment, polls at any others, and is told of no change at
  last, has seen what there is. -/
  current : ∀ before stretches last,
    client.writes view (before ++ stretches.flatten ++ last) < UInt64.size →
    let there := client.run before
    let reader := there.follow view (.take (view there.core)) stretches
    let cell := view (client.run (before ++ stretches.flatten ++ last)).core
    (reader.subscription.poll cell).1 = none → cell.value = reader.seen

/-- A view notifies if every turn announces what it makes of it. -/
theorem notifies_of_announces (announces : Core.Announces view)
    (new : Client.new config = .ok client) : client.Notifies view := by
  have unchanged (first second : List Step)
      (few : client.writes view (first ++ second) < UInt64.size)
      (same : (view (client.run (first ++ second)).core).version =
        (view (client.run first).core).version) :
      (view (client.run (first ++ second)).core).value = (view (client.run first).core).value := by
    rw [run_append] at same ⊢
    have written := written_of_run announces (inRun_of_new new first) second
    have fewer : (client.run first).writes view second < UInt64.size := by
      rw [writes_append] at few
      omega
    rw [written.eq_of_version_eq fewer same]
  refine ⟨written_of_run announces (inRun_of_new new []), unchanged, ?_⟩
  intro before stretches last few there reader cell silent
  obtain ⟨latest, ⟨rest, split⟩, saw⟩ :=
    saw_of_follow (Reader.saw_take (view there.core)) List.prefix_rfl stretches
  have all : before ++ stretches.flatten ++ last = latest ++ (rest ++ last) := by
    rw [← split, List.append_assoc]
  -- What the reader saw last has a version that is no larger, and the poll says that it is no
  -- smaller.
  have older := version_of_run announces new
    (Nat.lt_of_le_of_lt (Nat.le_add_right _ _) (by rwa [all, writes_append] at few))
  have newer := version_of_run announces new few
  have kept : ¬ reader.subscription.observed < cell.version := by
    have unheard := reader.subscription.isSome_poll cell
    rw [silent] at unheard
    simpa [Subscription.hasChanged] using unheard.symm
  have same : cell.version = (view (client.run latest).core).version := by
    rw [saw.version, UInt64.lt_iff_toNat_lt, newer, older, all, writes_append] at kept
    rw [← UInt64.toNat_inj, newer, older, all, writes_append]
    omega
  have value := unchanged latest (rest ++ last) (by rwa [← all]) (by rwa [← all])
  rw [← all] at value
  exact value.trans saw.value.symm

end Client

/-- **No missed notification.** In every run, each of the four views changes only by writes that
raise its version. As long as a version does not come round, it tells whether the view has changed,
and no reader misses a change. -/
theorem no_missed_notification {config : Config} {client : Client}
    (new : Client.new config = .ok client) :
    client.Notifies (fun core => core.session) ∧ client.Notifies (fun core => core.registry) ∧
      client.Notifies (fun core => core.chat) ∧ client.Notifies (fun core => core.purchase) :=
  ⟨Client.notifies_of_announces Core.announces_session new,
    Client.notifies_of_announces Core.announces_registry new,
    Client.notifies_of_announces Core.announces_chat new,
    Client.notifies_of_announces Core.announces_purchase new⟩

/-- The host pushes the same games in another order. -/
def reordered : Client.Step := .pushRegistry ⟨twoGames.sequencers.reverse, twoGames.loaded⟩

/-- A reader is not told of that, and rightly so: the games keep their places. -/
theorem reordered_games_keep_their_places :
    let client := Client.fresh {}
    let reader := Reader.take (client.run [.pushRegistry twoGames]).core.registry
    let cell := (client.run [.pushRegistry twoGames, reordered]).core.registry
    (reader.subscription.poll cell).1 = none ∧ cell.value = reader.seen := by
  intro client reader cell
  obtain ⟨-, registry, -, -⟩ := no_missed_notification Client.new_default
  have silent : (reader.subscription.poll cell).1 = none := rfl
  exact ⟨silent, registry.current [.pushRegistry twoGames] [] [reordered] (by decide) silent⟩

end GameClient
