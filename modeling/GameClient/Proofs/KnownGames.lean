import GameClient.Registry
import Mathlib.Data.List.Basic
import Mathlib.Data.List.Induction

/-!
# Which games are known

What a registry knows is told by `Registry.get?`. For each operation this file says once what it
does to `get?`: adding a game decides about its key alone, taking over a snapshot leaves exactly the
keys that are reported. From there it follows which key a snapshot selects
(`active_applySnapshot`), and when a key can be selected at all.
-/

namespace GameClient

namespace GameHandle

variable {key : String} {handles : List GameHandle}

theorem find?_cons (handle : GameHandle) (rest : List GameHandle) (key : String) :
    find? key (handle :: rest) =
      if handle.publicKey = key then some handle else find? key rest := by
  by_cases own : handle.publicKey = key
  · rw [if_pos own]
    exact List.find?_cons_of_pos (by simpa using own)
  · rw [if_neg own]
    exact List.find?_cons_of_neg (by simpa using own)

theorem find?_put (handle : GameHandle) (handles : List GameHandle) (key : String) :
    find? key (put handle handles) =
      if handle.publicKey = key then some handle else find? key handles := by
  induction handles with
  | nil => exact find?_cons handle [] key
  | cons other rest ih =>
      unfold put
      split
      · next same =>
          rw [find?_cons, find?_cons, same]
          split <;> rfl
      · next different =>
          -- The other handle stays in front, and it cannot have the key of the new one.
          rw [find?_cons, find?_cons, ih]
          by_cases found : other.publicKey = key
          · rw [if_pos found, if_neg fun own => different (found.trans own.symm), if_pos found]
          · rw [if_neg found, if_neg found]

/-- Of the handles of a key that are put one after the other the last one stays. -/
theorem find?_putAll (handles onto : List GameHandle) (key : String) :
    find? key (putAll handles onto) = (find? key handles.reverse).or (find? key onto) := by
  induction handles using List.reverseRecOn with
  | nil => rfl
  | append_singleton handles handle ih =>
      rw [putAll, List.foldl_concat, find?_put, List.reverse_concat, find?_cons]
      split
      · rfl
      · exact ih

theorem isSome_find? :
    (find? key handles).isSome = true ↔ ∃ handle ∈ handles, handle.publicKey = key := by
  simp [find?, List.find?_isSome]

end GameHandle

/-- The snapshot reports a game with this key. -/
def RegistrySnapshot.Reports (snapshot : RegistrySnapshot) (key : String) : Prop :=
  ∃ handle ∈ snapshot.sequencers, handle.publicKey = key

/-- The snapshot says that the game with this key is loaded, and reports that game. -/
def RegistrySnapshot.Loads (snapshot : RegistrySnapshot) (key : String) : Prop :=
  snapshot.loaded = some key ∧ key ≠ "" ∧ snapshot.Reports key

theorem RegistrySnapshot.find?_reported (snapshot : RegistrySnapshot) (key : String) :
    GameHandle.find? key snapshot.reported = GameHandle.find? key snapshot.sequencers.reverse := by
  rw [reported, GameHandle.find?_putAll]
  exact Option.or_none

theorem RegistrySnapshot.isSome_find?_reported {snapshot : RegistrySnapshot} {key : String} :
    (GameHandle.find? key snapshot.reported).isSome = true ↔ snapshot.Reports key := by
  rw [find?_reported, GameHandle.isSome_find?]
  simp [Reports]

namespace Registry

variable {registry : Registry} {key : String}

theorem get?_upsert (registry : Registry) (handle : GameHandle) (key : String) :
    (registry.upsert handle).1.get? key =
      if handle.publicKey = key then some handle else registry.get? key := by
  unfold upsert
  split
  · next kept =>
      split
      · next own => rw [← own, kept]
      · rfl
  · exact GameHandle.find?_put handle registry.games key

theorem get?_upsertAll (registry : Registry) (handles : List GameHandle) (key : String) :
    (registry.upsertAll handles).get? key =
      (GameHandle.find? key handles.reverse).or (registry.get? key) := by
  induction handles using List.reverseRecOn with
  | nil => rfl
  | append_singleton handles handle ih =>
      rw [upsertAll, List.foldl_concat, get?_upsert, List.reverse_concat, GameHandle.find?_cons]
      split
      · rfl
      · exact ih

theorem get?_retain (registry : Registry) (reported : List GameHandle) (key : String) :
    (registry.retain reported).get? key =
      if (GameHandle.find? key reported).isSome then registry.get? key else none := by
  show GameHandle.find? key (registry.games.filter _) =
    if _ then GameHandle.find? key registry.games else none
  induction registry.games with
  | nil => simp [GameHandle.find?]
  | cons handle rest ih =>
      rw [List.filter_cons, GameHandle.find?_cons]
      by_cases own : handle.publicKey = key
      · rw [own, if_pos rfl]
        split
        · rw [GameHandle.find?_cons, if_pos own]
        · next missing =>
            rw [ih, if_neg missing]
      · rw [if_neg own, ← ih]
        split
        · rw [GameHandle.find?_cons, if_neg own]
        · rfl

/-- After a snapshot exactly the games that it reports are known. -/
theorem contains_applySnapshot (registry : Registry) (snapshot : RegistrySnapshot) (key : String) :
    ((registry.retain snapshot.reported).upsertAll snapshot.reported).contains key = true ↔
      snapshot.Reports key := by
  rw [contains, get?_upsertAll, get?_retain, Option.isSome_or, Bool.or_eq_true,
    GameHandle.isSome_find?, ← RegistrySnapshot.isSome_find?_reported]
  simp only [List.mem_reverse, ← GameHandle.isSome_find?]
  constructor
  · rintro (reported | kept)
    · exact reported
    · split at kept
      · next reported => exact reported
      · cases kept
  · exact .inl

/-- A snapshot selects the game that it loads, if it reports it; otherwise none is selected. -/
theorem active_applySnapshot {registry : Registry} {snapshot : RegistrySnapshot} {key : String} :
    (registry.applySnapshot snapshot).active = some key ↔ snapshot.Loads key := by
  show (snapshot.selected?.filter _) = some key ↔ _
  rw [Option.filter_eq_some_iff, contains_applySnapshot, RegistrySnapshot.selected?,
    Option.filter_eq_some_iff]
  simp [RegistrySnapshot.Loads, and_assoc]

/-- A key is refused exactly if it is not known. -/
theorem setActive_eq_error_iff {error : ActionError} :
    registry.setActive (some key) = .error error ↔
      key ≠ "" ∧ registry.contains key = false ∧ error = .unknownHandle key := by
  unfold setActive
  by_cases empty : key = ""
  · simp [empty]
  · cases known : registry.contains key <;> simp [empty, known, @eq_comm _ error]

theorem setActive_eq_ok_iff (named : key ≠ "") {selected : Registry} :
    registry.setActive (some key) = .ok selected ↔
      registry.contains key = true ∧ selected = { registry with active := some key } := by
  unfold setActive
  cases known : registry.contains key <;> simp [named, known, @eq_comm _ selected]

end Registry

end GameClient
