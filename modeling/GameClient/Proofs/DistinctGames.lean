import GameClient.Proofs.KnownGames
import Mathlib.Data.List.Nodup

/-!
# Each game once

A registry knows each key once (`Registry.Distinct`), and every operation keeps it so: a game that
is known is renamed in its place, a new one is added at the end, and dropping games leaves the rest
in order.

From this follows when a snapshot makes no difference. Registries are compared without regard to the
order of their games (`Registry.sameAs`), but the games are shown in order. This does no harm to a
snapshot: one that leaves the same games leaves them in the same order, for then it has dropped none
and added none (`eq_of_sameAs_applySnapshot`).
-/

namespace GameClient

namespace GameHandle

variable {handles : List GameHandle} {key : String}

/-- The keys of handles. -/
def keys (handles : List GameHandle) : List String := handles.map publicKey

theorem isSome_find?_iff_mem_keys : (find? key handles).isSome = true ↔ key ∈ keys handles := by
  rw [isSome_find?, keys, List.mem_map]

/-- A key stays in its place, and a new one comes at the end. -/
theorem keys_put (handle : GameHandle) (handles : List GameHandle) :
    keys (put handle handles) =
      if handle.publicKey ∈ keys handles then keys handles
      else keys handles ++ [handle.publicKey] := by
  induction handles with
  | nil => rfl
  | cons other rest ih =>
      unfold put
      split
      · next same => simp [keys, same]
      · next different =>
          show other.publicKey :: keys (put handle rest) =
            if handle.publicKey ∈ other.publicKey :: keys rest then other.publicKey :: keys rest
            else other.publicKey :: (keys rest ++ [handle.publicKey])
          rw [ih]
          by_cases known : handle.publicKey ∈ keys rest
          · rw [if_pos known, if_pos (List.mem_cons_of_mem _ known)]
          · rw [if_neg known, if_neg]
            rw [List.mem_cons]
            exact not_or.mpr ⟨Ne.symm different, known⟩

/-- Where each key stands once, a handle is found under its key. -/
theorem find?_of_mem (distinct : (keys handles).Nodup) {handle : GameHandle}
    (mem : handle ∈ handles) : find? handle.publicKey handles = some handle := by
  obtain ⟨other, found⟩ := Option.isSome_iff_exists.mp (isSome_find?.mpr ⟨handle, mem, rfl⟩)
  have same : other.publicKey = handle.publicKey := by simpa using List.find?_some found
  rw [found, List.inj_on_of_nodup_map distinct (List.mem_of_find?_eq_some found) mem same]

/-- Handles are told by their keys, in order, and what is found under them. -/
theorem filterMap_find?_keys {others : List GameHandle}
    (found : ∀ handle ∈ handles, find? handle.publicKey others = some handle) :
    (keys handles).filterMap (fun key => find? key others) = handles := by
  induction handles with
  | nil => rfl
  | cons handle rest ih =>
      obtain ⟨first, later⟩ := List.forall_mem_cons.mp found
      show ((handle.publicKey :: keys rest).filterMap _) = _
      rw [List.filterMap_cons, first, ih later]

end GameHandle

attribute [ext] Registry

namespace Registry

open GameHandle (keys keys_put isSome_find?_iff_mem_keys)

variable {registry : Registry}

/-- Each key is known once. -/
def Distinct (registry : Registry) : Prop := (keys registry.games).Nodup

theorem contains_iff_mem_keys {key : String} :
    registry.contains key = true ↔ key ∈ keys registry.games :=
  isSome_find?_iff_mem_keys

theorem keys_upsert (registry : Registry) (handle : GameHandle) :
    keys (registry.upsert handle).1.games =
      if handle.publicKey ∈ keys registry.games then keys registry.games
      else keys registry.games ++ [handle.publicKey] := by
  unfold upsert
  split
  · next kept =>
      rw [if_pos]
      rw [← contains_iff_mem_keys, contains, kept]
      rfl
  · exact keys_put handle registry.games

theorem distinct_upsert (distinct : registry.Distinct) (handle : GameHandle) :
    (registry.upsert handle).1.Distinct := by
  unfold Distinct
  rw [keys_upsert]
  split
  · exact distinct
  · next new => exact List.Nodup.append distinct (List.nodup_singleton _) (by simpa using new)

/-- Adding games leaves the keys that are there in front. -/
theorem keys_upsertAll (registry : Registry) (handles : List GameHandle) :
    keys registry.games <+: keys (registry.upsertAll handles).games := by
  induction handles using List.reverseRecOn with
  | nil => exact List.prefix_rfl
  | append_singleton handles handle ih =>
      rw [upsertAll, List.foldl_concat, keys_upsert]
      split
      · exact ih
      · exact ih.trans (List.prefix_append _ _)

theorem distinct_upsertAll (distinct : registry.Distinct) (handles : List GameHandle) :
    (registry.upsertAll handles).Distinct := by
  induction handles using List.reverseRecOn with
  | nil => exact distinct
  | append_singleton handles handle ih =>
      rw [upsertAll, List.foldl_concat]
      exact distinct_upsert ih handle

theorem distinct_retain (distinct : registry.Distinct) (reported : List GameHandle) :
    (registry.retain reported).Distinct :=
  distinct.sublist (List.filter_sublist.map _)

theorem distinct_applySnapshot (distinct : registry.Distinct) (snapshot : RegistrySnapshot) :
    (registry.applySnapshot snapshot).Distinct :=
  distinct_upsertAll (distinct_retain distinct _) _

theorem distinct_setActive (distinct : registry.Distinct) {key : Option String}
    {selected : Registry} (known : registry.setActive key = .ok selected) : selected.Distinct := by
  have games : selected.games = registry.games := by
    unfold setActive at known
    split at known
    · cases known; rfl
    · split at known
      · cases known; rfl
      · split at known <;> cases known
        rfl
  rwa [Distinct, games]

/-! ## Snapshots that make no difference -/

/-- A known game that a snapshot leaves is among those that it retains. -/
theorem mem_keys_retain {snapshot : RegistrySnapshot} {key : String}
    (left : key ∈ keys (registry.applySnapshot snapshot).games)
    (known : registry.contains key = true) :
    key ∈ keys (registry.retain snapshot.reported).games := by
  have reported :=
    (contains_applySnapshot registry snapshot key).mp (contains_iff_mem_keys.mpr left)
  rw [← contains_iff_mem_keys, contains, get?_retain,
    if_pos (RegistrySnapshot.isSome_find?_reported.mpr reported)]
  exact known

/-- A list that goes on after another one without a new element and without a repetition is that
other one. -/
theorem eq_of_prefix_of_subset {first second : List String} (front : first <+: second)
    (distinct : second.Nodup) (subset : second ⊆ first) : first = second := by
  obtain ⟨rest, rfl⟩ := front
  cases rest with
  | nil => rw [List.append_nil]
  | cons key rest =>
      have twice := subset (List.mem_append_right _ List.mem_cons_self)
      exact absurd rfl ((List.nodup_append.mp distinct).2.2 key twice key List.mem_cons_self)

/-- A snapshot that leaves the same games leaves them in the same order. -/
theorem eq_of_sameAs_applySnapshot (distinct : registry.Distinct) {snapshot : RegistrySnapshot}
    (same : (registry.applySnapshot snapshot).sameAs registry = true) :
    registry.applySnapshot snapshot = registry := by
  simp only [sameAs, Bool.and_eq_true, beq_iff_eq, List.all_eq_true] at same
  obtain ⟨⟨length, found⟩, active⟩ := same
  -- Every game that is left was known, so none is added to those that are retained.
  have unadded : keys (registry.retain snapshot.reported).games =
      keys (registry.applySnapshot snapshot).games := by
    refine eq_of_prefix_of_subset (keys_upsertAll _ _) (distinct_applySnapshot distinct _) ?_
    intro key left
    obtain ⟨handle, mem, rfl⟩ := List.mem_map.mp left
    exact mem_keys_retain left (by rw [contains, found handle mem]; rfl)
  -- And none is dropped, since there are as many as before.
  have undropped : (registry.retain snapshot.reported).games = registry.games := by
    have count : (registry.retain snapshot.reported).games.length = registry.games.length := by
      rw [← length]
      simpa [keys] using congrArg List.length unadded
    exact List.filter_sublist.eq_of_length count
  have games : (registry.applySnapshot snapshot).games = registry.games := by
    rw [← GameHandle.filterMap_find?_keys found, ← unadded, undropped]
    exact GameHandle.filterMap_find?_keys fun handle mem => GameHandle.find?_of_mem distinct mem
  calc registry.applySnapshot snapshot
      = ⟨(registry.applySnapshot snapshot).games, (registry.applySnapshot snapshot).active⟩ := rfl
    _ = registry := by rw [games, active]

end Registry

end GameClient
