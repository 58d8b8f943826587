import GameClient.Proofs.RegistryEdits

/-!
# What a snapshot leaves of a registry

A snapshot of the backend may repeat a key, rename games, leave games out and bring new ones, all at
once. What it leaves can be said without going through it: the known games that it reports keep
their places, the new ones come behind them, each where the snapshot names it first, and every game
has the name that the snapshot gives it last (`Registry.Reconciled`).

A list of handles whose keys are distinct is told by its keys, in order, and by what is found under
them (`GameHandle.eq_of_keys_of_find?`). So it is enough to say of each operation what it does to
the keys (`GameHandle.keys_putAll`) and what it does to finding a game (`get?_applySnapshot`). The
games of a snapshot are put together before they are put into the registry; to put them in one by
one, as they are reported, comes to the same (`putAll_reported`).

The main statement is `snapshot_is_reconciled`.
-/

namespace GameClient

/-! ## First occurrences -/

/-- An element at the end of a list is dropped if it occurs before. -/
theorem eraseDups_concat {α : Type} [DecidableEq α] (xs : List α) (x : α) :
    (xs ++ [x]).eraseDups = if x ∈ xs then xs.eraseDups else xs.eraseDups ++ [x] := by
  rw [List.eraseDups_append]
  split
  · next old =>
      have none : [x].removeAll xs = [] := by simp [List.removeAll, old]
      rw [none, List.eraseDups_nil, List.append_nil]
  · next new =>
      have kept : [x].removeAll xs = [x] := by simp [List.removeAll, new]
      rw [kept]
      rfl

theorem eraseDups_of_nodup {α : Type} [DecidableEq α] {xs : List α} (distinct : xs.Nodup) :
    xs.eraseDups = xs := by
  induction xs using List.reverseRecOn with
  | nil => rfl
  | append_singleton xs x ih =>
      obtain ⟨before, -, apart⟩ := List.nodup_append.mp distinct
      have new : x ∉ xs := fun old => apart x old x List.mem_cons_self rfl
      rw [eraseDups_concat, if_neg new, ih before]

/-! ## Handles that are put one after the other -/

namespace GameHandle

variable {handles others : List GameHandle} {key : String}

/-- Handles with distinct keys are told by their keys, in order, and by what is found. -/
theorem eq_of_keys_of_find? (distinct : (keys handles).Nodup) (order : keys handles = keys others)
    (found : ∀ key, find? key handles = find? key others) : handles = others := by
  have otherDistinct : (keys others).Nodup := order ▸ distinct
  calc handles
      = (keys handles).filterMap (fun key => find? key handles) :=
        (filterMap_find?_keys fun _ mem => find?_of_mem distinct mem).symm
    _ = (keys others).filterMap (fun key => find? key others) := by simp only [order, found]
    _ = others := filterMap_find?_keys fun _ mem => find?_of_mem otherDistinct mem

/-- Where each key stands once, it does not matter from which end a handle is looked for. -/
theorem find?_reverse (distinct : (keys handles).Nodup) (key : String) :
    find? key handles.reverse = find? key handles := by
  have reversed : (keys handles.reverse).Nodup := by
    rw [keys, List.map_reverse]
    exact List.nodup_reverse.mpr distinct
  cases found : find? key handles with
  | some handle =>
      obtain rfl : handle.publicKey = key := by simpa using List.find?_some found
      exact find?_of_mem reversed (List.mem_reverse.mpr (List.mem_of_find?_eq_some found))
  | none =>
      rw [← Option.not_isSome_iff_eq_none, isSome_find?] at found ⊢
      simpa only [List.mem_reverse] using found

/-- The keys that are there stay in front, and the new ones follow, each where it comes first. -/
theorem keys_putAll (handles onto : List GameHandle) :
    keys (putAll handles onto) =
      keys onto ++ (keys handles).eraseDups.filter (· ∉ keys onto) := by
  induction handles using List.reverseRecOn with
  | nil => exact (List.append_nil _).symm
  | append_singleton handles handle ih =>
      have known : handle.publicKey ∈ keys (putAll handles onto) ↔
          handle.publicKey ∈ keys onto ∨ handle.publicKey ∈ keys handles := by
        rw [ih, List.mem_append, List.mem_filter, List.mem_eraseDups, decide_eq_true_iff]
        tauto
      have more : keys (handles ++ [handle]) = keys handles ++ [handle.publicKey] :=
        List.map_append
      rw [putAll, List.foldl_concat, ← putAll, keys_put, more, eraseDups_concat]
      by_cases there : handle.publicKey ∈ keys onto
      · rw [if_pos (known.mpr (.inl there)), ih]
        split
        · rfl
        · rw [List.filter_append, List.filter_singleton]
          simp [there]
      · by_cases named : handle.publicKey ∈ keys handles
        · rw [if_pos (known.mpr (.inr named)), if_pos named, ih]
        · rw [if_neg (mt known.mp (not_or.mpr ⟨there, named⟩)), if_neg named, ih,
            List.filter_append, List.filter_singleton]
          simp [there]

end GameHandle

/-! ## The games of a snapshot -/

open GameHandle (keys find? putAll)

namespace RegistrySnapshot

/-- The game of a key, under the name that the snapshot gives it last. -/
def lastReported? (snapshot : RegistrySnapshot) (key : String) : Option GameHandle :=
  find? key snapshot.sequencers.reverse

variable {snapshot : RegistrySnapshot} {key : String} {handle : GameHandle}

/-- That is the one after which the snapshot does not report the key again. -/
theorem lastReported?_eq_some_iff :
    snapshot.lastReported? key = some handle ↔
      handle.publicKey = key ∧
        ∃ before after, snapshot.sequencers = before ++ handle :: after ∧ key ∉ keys after := by
  rw [lastReported?, GameHandle.find?, List.find?_eq_some_iff_append, beq_iff_eq]
  refine and_congr_right fun _ => ?_
  constructor
  · rintro ⟨after, before, split, others⟩
    refine ⟨before.reverse, after.reverse, ?_, ?_⟩
    · rw [← List.reverse_reverse snapshot.sequencers, split]
      simp
    · intro mem
      obtain ⟨other, otherMem, same⟩ := List.mem_map.mp mem
      simpa [same] using others other (List.mem_reverse.mp otherMem)
  · rintro ⟨before, after, split, others⟩
    refine ⟨after.reverse, before.reverse, by simp [split], ?_⟩
    intro other mem
    have different : other.publicKey ≠ key := fun same =>
      others (List.mem_map.mpr ⟨other, List.mem_reverse.mp mem, same⟩)
    simpa using different

theorem isSome_lastReported? :
    (snapshot.lastReported? key).isSome = true ↔ snapshot.Reports key := by
  rw [lastReported?, ← find?_reported, isSome_find?_reported]

theorem reports_iff_mem_keys : snapshot.Reports key ↔ key ∈ keys snapshot.sequencers :=
  List.mem_map.symm

/-- The games of a snapshot are put together in the order in which they are named first. -/
theorem keys_reported (snapshot : RegistrySnapshot) :
    keys snapshot.reported = (keys snapshot.sequencers).eraseDups := by
  rw [reported, GameHandle.keys_putAll]
  simp [keys]

end RegistrySnapshot

namespace Registry

variable {registry other : Registry} {snapshot : RegistrySnapshot} {key : String}

theorem games_upsertAll (registry : Registry) (handles : List GameHandle) :
    (registry.upsertAll handles).games = putAll handles registry.games := by
  induction handles using List.reverseRecOn with
  | nil => rfl
  | append_singleton handles handle ih =>
      rw [upsertAll, List.foldl_concat, games_upsert, ← upsertAll, ih, putAll, putAll,
        List.foldl_concat]

theorem distinct_reported (snapshot : RegistrySnapshot) : (keys snapshot.reported).Nodup := by
  have listed : snapshot.reported = (upsertAll {} snapshot.sequencers).games :=
    (games_upsertAll {} snapshot.sequencers).symm
  rw [listed]
  exact distinct_upsertAll wellFormed_empty.distinct _

/-- To put the games of a snapshot in one by one comes to the same as to put them together first.
-/
theorem upsertAll_reported (distinct : registry.Distinct) (snapshot : RegistrySnapshot) :
    (registry.upsertAll snapshot.reported).games =
      (registry.upsertAll snapshot.sequencers).games := by
  apply GameHandle.eq_of_keys_of_find? (distinct_upsertAll distinct _)
  · rw [games_upsertAll, games_upsertAll, GameHandle.keys_putAll, GameHandle.keys_putAll,
      eraseDups_of_nodup (distinct_reported snapshot), RegistrySnapshot.keys_reported]
  · intro key
    rw [games_upsertAll, games_upsertAll, GameHandle.find?_putAll, GameHandle.find?_putAll,
      GameHandle.find?_reverse (distinct_reported snapshot), RegistrySnapshot.find?_reported]

theorem keys_retain (registry : Registry) (reported : List GameHandle) :
    keys (registry.retain reported).games = (keys registry.games).filter (· ∈ keys reported) := by
  show List.map _ (registry.games.filter _) = (List.map _ registry.games).filter _
  rw [List.filter_map]
  congr 2
  funext handle
  rw [Function.comp_apply, Bool.eq_iff_iff, GameHandle.isSome_find?_iff_mem_keys,
    decide_eq_true_iff]

/-- What is retained is told by the keys that are reported. -/
theorem retain_congr {first second : List GameHandle}
    (same : ∀ key, key ∈ keys first ↔ key ∈ keys second) :
    registry.retain first = registry.retain second := by
  unfold retain
  congr 2
  funext handle
  rw [Bool.eq_iff_iff, GameHandle.isSome_find?_iff_mem_keys, GameHandle.isSome_find?_iff_mem_keys,
    same]

theorem retain_reported (registry : Registry) (snapshot : RegistrySnapshot) :
    registry.retain snapshot.reported = registry.retain snapshot.sequencers := by
  apply retain_congr
  intro key
  rw [RegistrySnapshot.keys_reported, List.mem_eraseDups]

/-- A snapshot drops the games that it does not report, and puts in those that it does, one by one.
-/
theorem games_applySnapshot (distinct : registry.Distinct) (snapshot : RegistrySnapshot) :
    (registry.applySnapshot snapshot).games =
      ((registry.retain snapshot.sequencers).upsertAll snapshot.sequencers).games := by
  rw [← retain_reported]
  exact upsertAll_reported (distinct_retain distinct _) snapshot

/-! ## What is there after a snapshot -/

/-- The keys after a snapshot: the known ones that it reports, and then the new ones, each where it
is named first. -/
def keysAfter (registry : Registry) (snapshot : RegistrySnapshot) : List String :=
  (keys registry.games).filter (· ∈ keys snapshot.sequencers) ++
    (keys snapshot.sequencers).eraseDups.filter (· ∉ keys registry.games)

theorem keys_applySnapshot (distinct : registry.Distinct) (snapshot : RegistrySnapshot) :
    keys (registry.applySnapshot snapshot).games = registry.keysAfter snapshot := by
  rw [games_applySnapshot distinct, games_upsertAll, GameHandle.keys_putAll, keys_retain, keysAfter]
  congr 1
  -- Of the reported keys those are retained that were known.
  apply List.filter_congr
  intro key reported
  rw [List.mem_eraseDups] at reported
  simp [reported]

/-- A game is found after a snapshot under the name that the snapshot gives it last. -/
theorem get?_applySnapshot (distinct : registry.Distinct) (snapshot : RegistrySnapshot)
    (key : String) : (registry.applySnapshot snapshot).get? key = snapshot.lastReported? key := by
  rw [get?, games_applySnapshot distinct, ← get?, get?_upsertAll, get?_retain]
  show (snapshot.lastReported? key).or _ = _
  cases reported : snapshot.lastReported? key with
  | some handle => rfl
  | none =>
      have missing : ¬ (find? key snapshot.sequencers).isSome = true := by
        rw [GameHandle.isSome_find?_iff_mem_keys, ← RegistrySnapshot.reports_iff_mem_keys,
          ← RegistrySnapshot.isSome_lastReported?, reported]
        nofun
      rw [if_neg missing]
      rfl

theorem mem_keys_applySnapshot :
    key ∈ keys (registry.applySnapshot snapshot).games ↔ snapshot.Reports key := by
  rw [← contains_iff_mem_keys]
  exact contains_applySnapshot registry snapshot key

theorem active_applySnapshot_congr :
    (registry.applySnapshot snapshot).active = (other.applySnapshot snapshot).active := by
  apply Option.ext
  intro key
  rw [active_applySnapshot, active_applySnapshot]

/-- What a snapshot leaves of a registry. -/
structure Reconciled (registry : Registry) (snapshot : RegistrySnapshot) (after : Registry) :
    Prop where
  order : keys after.games = registry.keysAfter snapshot
  /-- Every game has the name that the snapshot gives it last. -/
  named : ∀ handle ∈ after.games, ∃ before later,
    snapshot.sequencers = before ++ handle :: later ∧ handle.publicKey ∉ keys later
  /-- The loaded key is selected if it is not empty and is reported; otherwise none is. -/
  selected : ∀ key, after.active = some key ↔ snapshot.Loads key

theorem reconciled_applySnapshot (distinct : registry.Distinct) (snapshot : RegistrySnapshot) :
    registry.Reconciled snapshot (registry.applySnapshot snapshot) where
  order := keys_applySnapshot distinct snapshot
  named handle mem := by
    have found := GameHandle.find?_of_mem (distinct_applySnapshot distinct snapshot) mem
    rw [← get?, get?_applySnapshot distinct, RegistrySnapshot.lastReported?_eq_some_iff] at found
    exact found.2
  selected _ := active_applySnapshot

/-! ## The same snapshot once more, and in other registries -/

/-- A snapshot that is taken over again changes nothing. -/
theorem applySnapshot_again (distinct : registry.Distinct) (snapshot : RegistrySnapshot) :
    (registry.applySnapshot snapshot).applySnapshot snapshot = registry.applySnapshot snapshot := by
  have distinctAfter := distinct_applySnapshot distinct snapshot
  have games : ((registry.applySnapshot snapshot).applySnapshot snapshot).games =
      (registry.applySnapshot snapshot).games := by
    apply GameHandle.eq_of_keys_of_find? (distinct_applySnapshot distinctAfter snapshot)
    · -- All that is known is reported, and all that is reported is known.
      rw [keys_applySnapshot distinctAfter, keysAfter, List.filter_eq_self.mpr,
        List.filter_eq_nil_iff.mpr, List.append_nil]
      · intro key reported
        rw [List.mem_eraseDups, ← RegistrySnapshot.reports_iff_mem_keys] at reported
        simpa using mem_keys_applySnapshot.mpr reported
      · intro key known
        rw [mem_keys_applySnapshot, RegistrySnapshot.reports_iff_mem_keys] at known
        simpa using known
    · intro key
      exact (get?_applySnapshot distinctAfter snapshot key).trans
        (get?_applySnapshot distinct snapshot key).symm
  exact Registry.ext games active_applySnapshot_congr

/-- Registries that have taken over one snapshot differ in the order of their games alone. -/
theorem sameAs_of_applySnapshot (distinct : registry.Distinct) (otherDistinct : other.Distinct)
    (snapshot : RegistrySnapshot) :
    (registry.applySnapshot snapshot).sameAs (other.applySnapshot snapshot) = true := by
  have distinctAfter := distinct_applySnapshot distinct snapshot
  have perm : (keys (registry.applySnapshot snapshot).games).Perm
      (keys (other.applySnapshot snapshot).games) := by
    rw [List.perm_ext_iff_of_nodup distinctAfter (distinct_applySnapshot otherDistinct snapshot)]
    intro key
    rw [mem_keys_applySnapshot, mem_keys_applySnapshot]
  simp only [sameAs, Bool.and_eq_true, beq_iff_eq, List.all_eq_true]
  refine ⟨⟨by simpa [keys] using perm.length_eq, ?_⟩, active_applySnapshot_congr⟩
  intro handle mem
  rw [get?_applySnapshot otherDistinct, ← get?_applySnapshot distinct]
  exact GameHandle.find?_of_mem distinctAfter mem

end Registry

/-! ## The main statement -/

/-- **Reconciliation.** Of a registry that knows each key once, a snapshot leaves the known games
that it reports, in their places, and behind them its new ones, each under its last name; and it
selects the game that it loads. This is what comes of dropping the games that are not reported and
putting in, one by one, those that are. To take the snapshot over again changes nothing, and two
registries that have taken it over are the same but for the order of their games. -/
theorem snapshot_is_reconciled {registry : Registry} (distinct : registry.Distinct)
    (snapshot : RegistrySnapshot) :
    registry.Reconciled snapshot (registry.applySnapshot snapshot) ∧
      (registry.applySnapshot snapshot).games =
        ((registry.retain snapshot.sequencers).upsertAll snapshot.sequencers).games ∧
      (registry.applySnapshot snapshot).applySnapshot snapshot =
        registry.applySnapshot snapshot ∧
      ∀ other : Registry, other.Distinct →
        (registry.applySnapshot snapshot).sameAs (other.applySnapshot snapshot) = true :=
  ⟨Registry.reconciled_applySnapshot distinct snapshot,
    Registry.games_applySnapshot distinct snapshot, Registry.applySnapshot_again distinct snapshot,
    fun _ otherDistinct => Registry.sameAs_of_applySnapshot distinct otherDistinct snapshot⟩

/-- A snapshot drops the game that was selected, renames one, and names a new one twice; an empty
registry comes to the same games in the order of the snapshot. -/
theorem mixed_snapshot_is_reconciled :
    let registry : Registry := ⟨[⟨"k1", "Ada"⟩, ⟨"k2", "Bob"⟩, ⟨"k3", "Cleo"⟩], some "k2"⟩
    let snapshot : RegistrySnapshot :=
      ⟨[⟨"k4", "Dan"⟩, ⟨"k3", "Cleo"⟩, ⟨"k1", "Al"⟩, ⟨"k4", "Dora"⟩], some "k3"⟩
    registry.Distinct ∧
      keys (registry.applySnapshot snapshot).games = ["k1", "k3", "k4"] ∧
      (registry.applySnapshot snapshot).active = some "k3" ∧
      (registry.applySnapshot snapshot).sameAs (Registry.applySnapshot {} snapshot) = true := by
  intro registry snapshot
  have distinct : registry.Distinct := by
    show List.Nodup _
    decide
  obtain ⟨reconciled, -, -, same⟩ := snapshot_is_reconciled distinct snapshot
  refine ⟨distinct, reconciled.order.trans (by decide), (reconciled.selected _).mpr ?_,
    same {} Registry.wellFormed_empty.distinct⟩
  exact ⟨rfl, by decide, ⟨"k3", "Cleo"⟩, by decide, rfl⟩

end GameClient
