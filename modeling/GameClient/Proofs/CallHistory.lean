import GameClient.Gateway.Traffic
import GameClient.Proofs.GateQueues

/-!
# The history of calls

What can be told of the traffic at a scripted backend from the moments that are past alone: which
calls have come and in which order, at which gate each stands, how many permits were released to a
gate and how many calls it has let through, and what the script says by now. The state of the
backend plays no part here. Moments are listed with the latest one first, and each function says
what one moment adds to those before it.
-/

namespace GameClient.Gateway.Traffic

open Session (Ticket)

section Lists

variable {α β : Type} [DecidableEq α] [DecidableEq β] {f : α → β} {list : List α} {a : α}

/-- An entry keeps its place in a list of names if no other entry there has its name. -/
theorem idxOf_map (apart : ∀ b ∈ list, f b = f a → b = a) :
    (list.map f).idxOf (f a) = list.idxOf a := by
  induction list with
  | nil => rfl
  | cons b rest ih =>
      rw [List.forall_mem_cons] at apart
      have same : f b = f a ↔ b = a := ⟨apart.1, congrArg f⟩
      rw [List.map_cons, List.idxOf_cons, List.idxOf_cons, ih apart.2]
      simp only [cond_eq_ite, beq_iff_eq, same]

theorem erase_map (apart : ∀ b ∈ list, f b = f a → b = a) :
    (list.map f).erase (f a) = (list.erase a).map f := by
  induction list with
  | nil => rfl
  | cons b rest ih =>
      rw [List.forall_mem_cons] at apart
      have same : f b = f a ↔ b = a := ⟨apart.1, congrArg f⟩
      simp only [List.map_cons, List.erase_cons, ih apart.2, beq_iff_eq, same]
      split <;> rfl

end Lists

/-! ### Moments -/

namespace Moment

/-- The future that was polled. -/
def polls? : Moment → Option Nat
  | pending future => some future
  | answered future _ _ => some future
  | _ => none

/-- The future that came to its end. -/
def ends? : Moment → Option Nat
  | answered future _ _ => some future
  | dropped future => some future
  | _ => none

/-- A gate was put up, for one operation or for all calls. -/
def raises? : Moment → Option (Option Operation)
  | directed .holdCalls => some none
  | directed (.hold operation) => some (some operation)
  | _ => none

end Moment

/-! ### What has happened -/

/-- The calls that were made; a future is known by the place of its call. -/
def made : List Moment → List Call
  | [] => []
  | .made call :: past => made past ++ [call]
  | _ :: past => made past

/-- The futures that were polled, in the order of their first polls. -/
def came : List Moment → List Nat
  | [] => []
  | moment :: past =>
    match moment.polls? with
    | none => came past
    | some future => if future ∈ came past then came past else came past ++ [future]

/-- The place of a future among those that were polled. -/
def place (past : List Moment) (future : Nat) : Nat := (came past).idxOf future

/-- The call of a future was answered, or the future was dropped. -/
def Over (past : List Moment) (future : Nat) : Prop :=
  ∃ moment ∈ past, moment.ends? = some future

instance (past : List Moment) (future : Nat) : Decidable (Over past future) :=
  inferInstanceAs (Decidable (∃ moment ∈ past, moment.ends? = some future))

/-- The call of a future was made, and the future is not over. -/
def Open (past : List Moment) (future : Nat) (call : Call) : Prop :=
  (made past)[future]? = some call ∧ ¬ Over past future

/-- The number of gates that were put up; a gate is known by its place among them. -/
def raised : List Moment → Nat
  | [] => 0
  | moment :: past => if moment.raises?.isSome then raised past + 1 else raised past

/-- The gate that was put up last for an operation, or for all calls. -/
def latest (owner : Option Operation) : List Moment → Option Nat
  | [] => none
  | moment :: past =>
    if moment.raises? = some owner then some (raised past) else latest owner past

/-- The gate that is present for an operation: its own if there is one, else that for all calls. -/
def present (operation : Operation) (past : List Moment) : Option Nat :=
  (latest (some operation) past).or (latest none past)

/-- The gate that is present for the call of a future. -/
def gateNow (future : Nat) (past : List Moment) : Option Nat :=
  (made past)[future]?.bind fun call => present call.operation past

/-- The gate that was present when a future was polled first. -/
def boundTo (future : Nat) : List Moment → Option Nat
  | [] => none
  | moment :: past =>
    if moment.polls? = some future ∧ future ∉ came past then gateNow future past
    else boundTo future past

/-- The gate that the call of a future has to pass when it is polled: the one it is bound to or, if
it was not polled before, the one that is present. -/
def gateOf (future : Nat) (past : List Moment) : Option Nat :=
  if future ∈ came past then boundTo future past else gateNow future past

/-- The futures that stand at a gate, in the order in which they came: those that are bound to it
and are not over. -/
def standing (gate : Nat) (past : List Moment) : List Nat :=
  (came past).filter fun future => boundTo future past = some gate ∧ ¬ Over past future

/-- The permits that a gate is given in a moment after those that are past. -/
def permitsFor (gate : Nat) (past : List Moment) : Moment → Nat
  | .directed (.release n) => if latest none past = some gate then n else 0
  | .directed (.releaseOperation operation n) =>
    if latest (some operation) past = some gate then n else 0
  | _ => 0

/-- The permits that were released to a gate. -/
def releasedTo (gate : Nat) : List Moment → Nat
  | [] => 0
  | moment :: past => releasedTo gate past + permitsFor gate past moment

/-- The number of calls that were bound to a gate and got through. -/
def passedAt (gate : Nat) : List Moment → Nat
  | [] => 0
  | .answered future call answer :: past =>
    if boundTo future (.answered future call answer :: past) = some gate then passedAt gate past + 1
    else passedAt gate past
  | _ :: past => passedAt gate past

/-- The failure that the calls of an operation end with. -/
def failing (operation : Operation) : List Moment → Option Failure
  | [] => none
  | .directed (.fail other failure) :: past =>
    if operation = other then some failure else failing operation past
  | .directed (.succeed other) :: past =>
    if operation = other then none else failing operation past
  | _ :: past => failing operation past

/-- The ticket that is given out. -/
def ticketNow (ticket : Ticket) : List Moment → Ticket
  | [] => ticket
  | .directed (.setTicket ticket) :: _ => ticket
  | _ :: past => ticketNow ticket past

/-- A call gets through when it is polled: there is no gate to pass, or fewer calls that came before
it stand at the gate than there are permits which were released to it and not used. -/
def Passes (future : Nat) (past : List Moment) : Prop :=
  ∀ gate, gateOf future past = some gate →
    (standing gate past).idxOf future < releasedTo gate past - passedAt gate past

/-- What a call is answered that gets through now. -/
def answerNow (ticket : Ticket) (schema : PurchaseSchema) (past : List Moment) (call : Call) :
    call.Answer :=
  match failing call.operation past with
  | some failure => .error failure
  | none =>
    match call with
    | .makeNewGame _ => .ok (ticketNow ticket past)
    | .joinExistingGame .. => .ok ()
    | .finalizeGame _ => .ok ()
    | .switchToGame _ => .ok ()
    | .getPurchaseSchema => .ok schema
    | .makePurchaseOffer _ => .ok ()

/-- The queue at a gate. -/
def queueAt (gate : Nat) (past : List Moment) : GateQueue where
  released := releasedTo gate past
  passed := passedAt gate past
  standing := (standing gate past).map (place past)

/-! ### What a moment adds -/

variable {moment : Moment} {past : List Moment} {future other gate : Nat} {operation : Operation}
  {owner : Option Operation}

theorem over_cons_iff :
    Over (moment :: past) future ↔ moment.ends? = some future ∨ Over past future := by
  simp [Over]

theorem came_of_unpolled (unpolled : moment.polls? = none) :
    came (moment :: past) = came past := by
  simp [came, unpolled]

theorem came_of_mem (polls : moment.polls? = some future) (mem : future ∈ came past) :
    came (moment :: past) = came past := by
  simp [came, polls, mem]

theorem came_of_notMem (polls : moment.polls? = some future) (comes : future ∉ came past) :
    came (moment :: past) = came past ++ [future] := by
  simp [came, polls, comes]

theorem nodup_came (past : List Moment) : (came past).Nodup := by
  induction past with
  | nil => exact List.nodup_nil
  | cons moment past ih =>
      cases polls : moment.polls? with
      | none => rwa [came_of_unpolled polls]
      | some future =>
          by_cases mem : future ∈ came past
          · rwa [came_of_mem polls mem]
          · rw [came_of_notMem polls mem]
            exact List.nodup_append.mpr ⟨ih, List.nodup_singleton future, by grind⟩

theorem mem_came_iff : future ∈ came past ↔ ∃ moment ∈ past, moment.polls? = some future := by
  induction past with
  | nil => simp [came]
  | cons moment past ih =>
      simp only [List.mem_cons, exists_eq_or_imp, ← ih]
      cases polls : moment.polls? with
      | none => simp [came_of_unpolled polls]
      | some other =>
          by_cases mem : other ∈ came past
          · rw [came_of_mem polls mem]
            grind
          · rw [came_of_notMem polls mem]
            grind

theorem boundTo_of_mem (mem : future ∈ came past) :
    boundTo future (moment :: past) = boundTo future past := by
  simp [boundTo, mem]

theorem boundTo_of_polls (polls : moment.polls? = some future) :
    boundTo future (moment :: past) = gateOf future past := by
  by_cases mem : future ∈ came past <;> simp [boundTo, gateOf, polls, mem]

/-! ### Gates that were not put up yet -/

theorem raised_le_cons (moment : Moment) (past : List Moment) :
    raised past ≤ raised (moment :: past) := by
  rw [raised]
  split <;> omega

theorem latest_lt (up : latest owner past = some gate) : gate < raised past := by
  induction past with
  | nil => cases up
  | cons moment past ih =>
      rw [latest] at up
      split at up
      · rename_i raises
        cases up
        simp [raised, raises]
      · exact Nat.lt_of_lt_of_le (ih up) (raised_le_cons moment past)

theorem present_lt (up : present operation past = some gate) : gate < raised past := by
  rcases Option.or_eq_some_iff.mp up with own | ⟨-, all⟩
  · exact latest_lt own
  · exact latest_lt all

theorem gateNow_lt (up : gateNow future past = some gate) : gate < raised past := by
  obtain ⟨call, -, up⟩ := Option.bind_eq_some_iff.mp up
  exact present_lt up

theorem boundTo_lt (bound : boundTo future past = some gate) : gate < raised past := by
  induction past with
  | nil => cases bound
  | cons moment past ih =>
      refine Nat.lt_of_lt_of_le ?_ (raised_le_cons moment past)
      rw [boundTo] at bound
      split at bound
      · exact gateNow_lt bound
      · exact ih bound

theorem permitsFor_eq_zero (unraised : raised past ≤ gate) : permitsFor gate past moment = 0 := by
  have absent owner : latest owner past ≠ some gate := by
    intro up
    have before := latest_lt up
    omega
  unfold permitsFor
  split <;> simp [absent]

/-- The queue at a gate that is not put up yet is empty. -/
theorem queueAt_of_raised_le (unraised : raised past ≤ gate) : queueAt gate past = {} := by
  have noneStands : standing gate past = [] := by
    refine List.filter_eq_nil_iff.mpr fun future _ stands => ?_
    have up := boundTo_lt (of_decide_eq_true stands).1
    omega
  have unopened : releasedTo gate past = 0 ∧ passedAt gate past = 0 := by
    clear noneStands
    -- The gate was not up at any moment before either.
    induction past with
    | nil => exact ⟨rfl, rfl⟩
    | cons moment past ih =>
        have before := Nat.le_trans (raised_le_cons moment past) unraised
        obtain ⟨released, passed⟩ := ih before
        refine ⟨by rw [releasedTo, released, permitsFor_eq_zero before], ?_⟩
        unfold passedAt
        split
        · rfl
        · rename_i same
          cases same
          rw [if_neg, passed]
          intro bound
          have up := boundTo_lt bound
          omega
        · rename_i same
          cases same
          exact passed
  rw [queueAt, noneStands, unopened.1, unopened.2]
  rfl

/-! ### Places -/

theorem place_inj (mem : future ∈ came past) :
    place past future = place past other ↔ future = other :=
  List.idxOf_inj mem

theorem place_of_notMem (comes : future ∉ came past) : place past future = (came past).length :=
  List.idxOf_eq_length comes

/-- A call keeps its place. -/
theorem place_cons (mem : future ∈ came past) :
    place (moment :: past) future = place past future := by
  unfold place
  cases polls : moment.polls? with
  | none => rw [came_of_unpolled polls]
  | some other =>
      by_cases old : other ∈ came past
      · rw [came_of_mem polls old]
      · rw [came_of_notMem polls old, List.idxOf_append_of_mem mem]

/-- A call has the place behind all others already when it comes. -/
theorem place_of_polls (polls : moment.polls? = some future) :
    place (moment :: past) future = place past future := by
  by_cases mem : future ∈ came past
  · exact place_cons mem
  · rw [place, came_of_notMem polls mem, List.idxOf_append_of_notMem mem, place_of_notMem mem,
      List.idxOf_cons_self]
    rfl

theorem map_place_cons (moment : Moment) {futures : List Nat}
    (mem : ∀ future ∈ futures, future ∈ came past) :
    futures.map (place (moment :: past)) = futures.map (place past) :=
  List.map_congr_left fun future stands => place_cons (mem future stands)

/-! ### How the queue at a gate changes -/

theorem mem_standing_iff :
    future ∈ standing gate past ↔
      future ∈ came past ∧ boundTo future past = some gate ∧ ¬ Over past future := by
  rw [standing, List.mem_filter, decide_eq_true_iff]

theorem came_of_standing (stands : future ∈ standing gate past) : future ∈ came past :=
  (mem_standing_iff.mp stands).1

theorem nodup_standing (gate : Nat) (past : List Moment) : (standing gate past).Nodup :=
  (nodup_came past).filter _

theorem place_mem_queueAt_iff :
    place past future ∈ (queueAt gate past).standing ↔ future ∈ standing gate past := by
  constructor
  · intro mem
    obtain ⟨other, stands, same⟩ := List.mem_map.mp mem
    rwa [← (place_inj (came_of_standing stands)).mp same]
  · exact List.mem_map_of_mem

/-- As many calls stand before a call in the queue as have come before it. -/
theorem ahead_queueAt :
    (queueAt gate past).ahead (place past future) = (standing gate past).idxOf future :=
  idxOf_map fun _ stands => (place_inj (came_of_standing stands)).mp

theorem standing_of_unended (kept : came (moment :: past) = came past)
    (unended : moment.ends? = none) : standing gate (moment :: past) = standing gate past := by
  unfold standing
  rw [kept]
  refine List.filter_congr fun future mem => ?_
  simp only [boundTo_of_mem mem, over_cons_iff, unended, reduceCtorEq, false_or]

/-- A call that is over stands nowhere. -/
theorem standing_of_ends (ends : moment.ends? = some future)
    (about : ∀ other, moment.polls? = some other → other = future) :
    standing gate (moment :: past) = (standing gate past).erase future := by
  have old : (came past).filter (fun other => boundTo other (moment :: past) = some gate ∧
      ¬ Over (moment :: past) other) = (standing gate past).erase future := by
    rw [(nodup_standing gate past).erase_eq_filter, standing, List.filter_filter]
    refine List.filter_congr fun other mem => ?_
    simp only [boundTo_of_mem mem, over_cons_iff, ends]
    grind
  cases polls : moment.polls? with
  | none => rw [standing, came_of_unpolled polls, old]
  | some other =>
      obtain rfl := about other polls
      by_cases mem : other ∈ came past
      · rw [standing, came_of_mem polls mem, old]
      · -- It came and went in one moment.
        have gone : Over (moment :: past) other := over_cons_iff.mpr (.inl ends)
        rw [standing, came_of_notMem polls mem, List.filter_append, old]
        simp [gone]

theorem queueAt_of_silent (silent : moment = .nothing ∨ ∃ call, moment = .made call) :
    queueAt gate (moment :: past) = queueAt gate past := by
  have kept : came (moment :: past) = came past := by
    obtain rfl | ⟨call, rfl⟩ := silent <;> rfl
  have unended : moment.ends? = none := by
    obtain rfl | ⟨call, rfl⟩ := silent <;> rfl
  rw [queueAt, standing_of_unended kept unended, map_place_cons _ fun _ => came_of_standing]
  obtain rfl | ⟨call, rfl⟩ := silent <;> rfl

theorem queueAt_directed (direction : Direction) :
    queueAt gate (.directed direction :: past) =
      (queueAt gate past).release (permitsFor gate past (.directed direction)) := by
  have kept : came (.directed direction :: past) = came past := rfl
  rw [queueAt, standing_of_unended kept rfl, map_place_cons _ fun _ => came_of_standing]
  rfl

/-- A call that is held again stands where it stood. -/
theorem queueAt_pending (mem : future ∈ came past) :
    queueAt gate (.pending future :: past) = queueAt gate past := by
  have kept : came (.pending future :: past) = came past := came_of_mem rfl mem
  rw [queueAt, standing_of_unended kept rfl, map_place_cons _ fun _ => came_of_standing]
  rfl

/-- A call that is held when it comes stands behind all others at its gate. -/
theorem queueAt_joins (comes : future ∉ came past) (alive : ¬ Over past future) :
    queueAt gate (.pending future :: past) =
      if gateNow future past = some gate then (queueAt gate past).join (place past future)
      else queueAt gate past := by
  have more : came (.pending future :: past) = came past ++ [future] := came_of_notMem rfl comes
  have bound : boundTo future (.pending future :: past) = gateNow future past := by
    rw [boundTo_of_polls rfl, gateOf, if_neg comes]
  have alive' : ¬ Over (.pending future :: past) future := by
    rw [over_cons_iff]
    exact not_or.mpr ⟨nofun, alive⟩
  -- Those who came before stand where they stood, and the new one is the last of all who came.
  have old : (came past).filter (fun other => boundTo other (.pending future :: past) = some gate ∧
      ¬ Over (.pending future :: past) other) = standing gate past := by
    refine List.filter_congr fun other mem => ?_
    simp only [boundTo_of_mem mem, over_cons_iff, Moment.ends?, reduceCtorEq, false_or]
  have new : place (.pending future :: past) future = place past future := place_of_polls rfl
  have stands : (standing gate (.pending future :: past)).map (place (.pending future :: past)) =
      (standing gate past).map (place past) ++
        if gateNow future past = some gate then [place past future] else [] := by
    rw [standing, more, List.filter_append, old, List.map_append,
      map_place_cons _ fun _ => came_of_standing]
    by_cases here : gateNow future past = some gate <;> simp [bound, alive', here, new]
  rw [queueAt, stands]
  split
  · rfl
  · rw [List.append_nil]
    rfl

theorem map_standing_of_ends (ends : moment.ends? = some future)
    (about : ∀ other, moment.polls? = some other → other = future) :
    (standing gate (moment :: past)).map (place (moment :: past)) =
      ((queueAt gate past).leave (place past future)).standing := by
  rw [standing_of_ends ends about,
    map_place_cons _ fun _ mem => came_of_standing (List.mem_of_mem_erase mem)]
  exact (erase_map fun _ stands => (place_inj (came_of_standing stands)).mp).symm

/-- A call that is dropped gives up its place and is not counted. -/
theorem queueAt_dropped :
    queueAt gate (.dropped future :: past) = (queueAt gate past).leave (place past future) := by
  have about : ∀ other, (Moment.dropped future).polls? = some other → other = future := by
    intro other polls
    cases polls
  rw [queueAt, map_standing_of_ends rfl about]
  rfl

/-- A call that does not stand at a gate has no place to give up there. -/
theorem leave_queueAt (absent : future ∉ standing gate past) :
    (queueAt gate past).leave (place past future) = queueAt gate past := by
  have absent' := fun mem => absent (place_mem_queueAt_iff.mp mem)
  rw [GateQueue.leave, List.erase_of_not_mem absent']

/-- A call that is answered gives up its place, and its gate has let through one more. -/
theorem queueAt_answered (call : Call) (answer : call.Answer) :
    queueAt gate (.answered future call answer :: past) =
      if gateOf future past = some gate then ((queueAt gate past).leave (place past future)).pass
      else queueAt gate past := by
  have about : ∀ other,
      (Moment.answered future call answer).polls? = some other → other = future := by
    intro other polls
    exact (Option.some.inj polls).symm
  have bound : boundTo future (.answered future call answer :: past) = gateOf future past :=
    boundTo_of_polls rfl
  rw [queueAt, map_standing_of_ends rfl about, passedAt, bound]
  split
  · rfl
  · rename_i elsewhere
    have absent : future ∉ standing gate past := by
      intro stands
      obtain ⟨mem, here, -⟩ := mem_standing_iff.mp stands
      rw [gateOf, if_pos mem] at elsewhere
      exact elsewhere here
    rw [leave_queueAt absent]
    rfl

end GameClient.Gateway.Traffic
