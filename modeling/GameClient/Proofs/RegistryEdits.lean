import GameClient.Keyed
import GameClient.Proofs.DistinctGames

/-!
# What every registry looks like

A registry starts empty and is edited: a game is added or renamed, a game is selected, the selection
is cleared, a snapshot is taken over. Whatever the edits are and in whatever order they come, each
key is known once, and what is selected is a known game whose key is not empty
(`Registry.WellFormed`). A game with the empty key can be known, but it cannot be selected.

A registry finds a game by the key that its handle carries. A `Registry.Table` keeps its handles
under keys that are put down apart from them, and a rename reaches into the handle that stands under
a key. That each handle stands under its own key is then something to show: after the same edits a
table holds what the registry lists, each handle under the key that it carries
(`Registry.table_editAll`).

The main statement is `edited_registry_is_sound`.
-/

namespace GameClient

open GameHandle (keys put find?)

/-! ## Putting a handle -/

namespace GameHandle

variable {handles : List GameHandle} {handle : GameHandle}

/-- A handle that is there already is put in its own place. -/
theorem put_of_found (found : find? handle.publicKey handles = some handle) :
    put handle handles = handles := by
  induction handles with
  | nil => cases found
  | cons other rest ih =>
      rw [find?_cons] at found
      unfold put
      split at found
      · next same => rw [if_pos same, Option.some.inj found]
      · next different => rw [if_neg different, ih found]

/-- A handle with a new key is put at the end. -/
theorem put_of_missing (missing : find? handle.publicKey handles = none) :
    put handle handles = handles ++ [handle] := by
  induction handles with
  | nil => rfl
  | cons other rest ih =>
      rw [find?_cons] at missing
      unfold put
      split at missing
      · cases missing
      · next different => rw [if_neg different, ih missing, List.cons_append]

/-- A label ends in dots, so no game looks like no selection. -/
theorem label_ne_noSelectionLabel (handle : GameHandle) :
    handle.label ≠ Registry.noSelectionLabel := by
  intro same
  have last := congrArg (fun text => text.toList.getLast?) same
  simp [label, Registry.noSelectionLabel, List.getLast?_cons] at last

end GameHandle

/-! ## Edits -/

/-- What can be done to a registry. -/
inductive Registry.Edit where
  | upsert (handle : GameHandle)
  | setActive (key : Option String)
  | clearActive
  | applySnapshot (snapshot : RegistrySnapshot)

namespace Registry

variable {registry : Registry} {key : String} {handle : GameHandle}

/-- The registry after an edit. A key that cannot be selected leaves it as it is. -/
def edit (registry : Registry) : Edit → Registry
  | .upsert handle => (registry.upsert handle).1
  | .setActive key =>
    match registry.setActive key with
    | .ok selected => selected
    | .error _ => registry
  | .clearActive => registry.clearActive.1
  | .applySnapshot snapshot => registry.applySnapshot snapshot

/-- The registry after edits, one after the other. -/
def editAll (registry : Registry) (edits : List Edit) : Registry := edits.foldl edit registry

theorem games_upsert (registry : Registry) (handle : GameHandle) :
    (registry.upsert handle).1.games = put handle registry.games := by
  unfold upsert
  split
  · next kept => exact (GameHandle.put_of_found kept).symm
  · rfl

theorem active_upsert (registry : Registry) (handle : GameHandle) :
    (registry.upsert handle).1.active = registry.active := by
  unfold upsert
  split <;> rfl

/-! ## Well-formed registries -/

/-- Each key is known once, and the selected one is known and not empty. -/
structure WellFormed (registry : Registry) : Prop where
  distinct : registry.Distinct
  selected : ∀ key, registry.active = some key → key ≠ "" ∧ key ∈ keys registry.games

theorem wellFormed_upsert (well : registry.WellFormed) (handle : GameHandle) :
    (registry.upsert handle).1.WellFormed where
  distinct := distinct_upsert well.distinct handle
  selected key active := by
    rw [active_upsert] at active
    obtain ⟨named, known⟩ := well.selected key active
    refine ⟨named, ?_⟩
    rw [keys_upsert]
    split
    · exact known
    · exact List.mem_append_left _ known

theorem wellFormed_deselected (well : registry.WellFormed) :
    ({ registry with active := none } : Registry).WellFormed :=
  ⟨well.distinct, fun _ active => nomatch active⟩

theorem wellFormed_setActive (well : registry.WellFormed) {key : Option String}
    {selected : Registry} (done : registry.setActive key = .ok selected) :
    selected.WellFormed := by
  cases key with
  | none =>
      obtain rfl := Except.ok.inj done
      exact wellFormed_deselected well
  | some key =>
      by_cases empty : key = ""
      · rw [setActive, if_pos empty] at done
        obtain rfl := Except.ok.inj done
        exact wellFormed_deselected well
      · obtain ⟨known, rfl⟩ := (setActive_eq_ok_iff empty).mp done
        refine ⟨well.distinct, fun other active => ?_⟩
        obtain rfl := Option.some.inj active
        exact ⟨empty, contains_iff_mem_keys.mp known⟩

theorem wellFormed_applySnapshot (well : registry.WellFormed) (snapshot : RegistrySnapshot) :
    (registry.applySnapshot snapshot).WellFormed where
  distinct := distinct_applySnapshot well.distinct snapshot
  selected key active := by
    obtain ⟨-, named, reported⟩ := active_applySnapshot.mp active
    have known := (contains_applySnapshot registry snapshot key).mpr reported
    exact ⟨named, contains_iff_mem_keys.mp known⟩

theorem wellFormed_edit (well : registry.WellFormed) (edit : Edit) :
    (registry.edit edit).WellFormed := by
  cases edit with
  | upsert handle => exact wellFormed_upsert well handle
  | setActive key =>
      cases done : registry.setActive key with
      | ok selected =>
          simp only [Registry.edit, done]
          exact wellFormed_setActive well done
      | error error =>
          simp only [Registry.edit, done]
          exact well
  | clearActive => exact wellFormed_deselected well
  | applySnapshot snapshot => exact wellFormed_applySnapshot well snapshot

theorem wellFormed_editAll (well : registry.WellFormed) (edits : List Edit) :
    (registry.editAll edits).WellFormed := by
  induction edits generalizing registry with
  | nil => exact well
  | cons edit edits ih => exact ih (wellFormed_edit well edit)

theorem wellFormed_empty : ({} : Registry).WellFormed :=
  ⟨List.nodup_nil, fun _ active => nomatch active⟩

/-! ## What a well-formed registry shows -/

namespace WellFormed

/-- A game is found under a key exactly if it is listed and carries that key. -/
theorem get?_eq_some_iff (well : registry.WellFormed) :
    registry.get? key = some handle ↔ handle ∈ registry.games ∧ handle.publicKey = key := by
  constructor
  · intro found
    exact ⟨List.mem_of_find?_eq_some found, by simpa using List.find?_some found⟩
  · rintro ⟨mem, rfl⟩
    exact GameHandle.find?_of_mem well.distinct mem

/-- The active game is the listed one that carries the selected key. -/
theorem activeHandle?_eq_some_iff (well : registry.WellFormed) :
    registry.activeHandle? = some handle ↔
      handle ∈ registry.games ∧ registry.active = some handle.publicKey := by
  unfold activeHandle?
  rw [Option.bind_eq_some_iff]
  constructor
  · rintro ⟨key, active, found⟩
    obtain ⟨mem, rfl⟩ := well.get?_eq_some_iff.mp found
    exact ⟨mem, active⟩
  · rintro ⟨mem, active⟩
    exact ⟨_, active, well.get?_eq_some_iff.mpr ⟨mem, rfl⟩⟩

theorem isSome_activeHandle? (well : registry.WellFormed) :
    registry.activeHandle?.isSome = registry.active.isSome := by
  unfold activeHandle?
  cases active : registry.active with
  | none => rfl
  | some key =>
      obtain ⟨-, known⟩ := well.selected key active
      exact contains_iff_mem_keys.mpr known

theorem selectionLabel_eq_noSelectionLabel_iff (well : registry.WellFormed) :
    registry.selectionLabel = noSelectionLabel ↔ registry.active = none := by
  have shown := well.isSome_activeHandle?
  unfold selectionLabel
  cases found : registry.activeHandle? with
  | some handle =>
      rw [found] at shown
      refine ⟨fun same => absurd same handle.label_ne_noSelectionLabel, fun active => ?_⟩
      rw [active] at shown
      cases shown
  | none =>
      rw [found] at shown
      exact ⟨fun _ => Option.not_isSome_iff_eq_none.mp (by simp [← shown]), fun _ => rfl⟩

end WellFormed

/-! ## Tables -/

/-- A registry whose handles stand under keys that are put down apart from them. -/
structure Table where
  entries : List (String × GameHandle) := []
  active : Option String := none

namespace Table

/-- Renames the handle under the key of the new one, or puts the new one under its key, at the
end. -/
def upsert (handle : GameHandle) (entries : List (String × GameHandle)) :
    List (String × GameHandle) :=
  match entries.lookup handle.publicKey with
  | some known =>
    Keyed.assign handle.publicKey { known with displayName := handle.displayName } entries
  | none => entries ++ [(handle.publicKey, handle)]

/-- The handles of a snapshot under their keys, of several with one key the last. -/
def reported (snapshot : RegistrySnapshot) : List (String × GameHandle) :=
  snapshot.sequencers.foldl
    (fun entries handle => Keyed.assign handle.publicKey handle entries) []

/-- Drops the keys that are not reported, then adds and renames what is. -/
def reconcile (snapshot : RegistrySnapshot) (entries : List (String × GameHandle)) :
    List (String × GameHandle) :=
  let retained := entries.filter fun entry => ((reported snapshot).lookup entry.1).isSome
  (reported snapshot).foldl (fun entries entry => upsert entry.2 entries) retained

/-- The table after an edit. -/
def edit (table : Table) : Edit → Table
  | .upsert handle => { table with entries := upsert handle table.entries }
  | .setActive none | .clearActive => { table with active := none }
  | .setActive (some key) =>
    if key = "" then { table with active := none }
    else if (table.entries.lookup key).isSome then { table with active := some key }
    else table
  | .applySnapshot snapshot =>
    let entries := reconcile snapshot table.entries
    { entries, active := snapshot.selected?.filter fun key => (entries.lookup key).isSome }

/-- The table after edits, one after the other. -/
def editAll (table : Table) (edits : List Edit) : Table := edits.foldl edit table

/-- Handles, each under the key that it carries. -/
def underKeys (handles : List GameHandle) : List (String × GameHandle) :=
  handles.map fun handle => (handle.publicKey, handle)

theorem underKeys_concat (handles : List GameHandle) (handle : GameHandle) :
    underKeys (handles ++ [handle]) = underKeys handles ++ [(handle.publicKey, handle)] :=
  List.map_append

theorem lookup_underKeys (handles : List GameHandle) (key : String) :
    (underKeys handles).lookup key = find? key handles := by
  induction handles with
  | nil => rfl
  | cons handle rest ih =>
      show List.lookup key ((handle.publicKey, handle) :: underKeys rest) = _
      rw [List.lookup_cons, GameHandle.find?_cons, ih]
      by_cases own : handle.publicKey = key
      · simp [own]
      · simp [own, beq_false_of_ne (Ne.symm own)]

theorem assign_underKeys (handle : GameHandle) (handles : List GameHandle) :
    Keyed.assign handle.publicKey handle (underKeys handles) = underKeys (put handle handles) := by
  induction handles with
  | nil => rfl
  | cons other rest ih =>
      show (if _ then _ else _) = underKeys (if _ then _ else _)
      split
      · rfl
      · exact congrArg (_ :: ·) ih

/-- To rename the handle under its own key is to put the new one in its place. -/
theorem upsert_underKeys (handle : GameHandle) (handles : List GameHandle) :
    upsert handle (underKeys handles) = underKeys (put handle handles) := by
  unfold upsert
  rw [lookup_underKeys]
  cases found : find? handle.publicKey handles with
  | some known =>
      have same : known.publicKey = handle.publicKey := by simpa using List.find?_some found
      have renamed : { known with displayName := handle.displayName } = handle := by
        cases known
        cases same
        rfl
      dsimp only
      rw [renamed, assign_underKeys]
  | none =>
      rw [GameHandle.put_of_missing found, underKeys_concat]

theorem reported_eq_underKeys (snapshot : RegistrySnapshot) :
    reported snapshot = underKeys snapshot.reported := by
  unfold reported RegistrySnapshot.reported GameHandle.putAll
  induction snapshot.sequencers using List.reverseRecOn with
  | nil => rfl
  | append_singleton handles handle ih =>
      rw [List.foldl_concat, List.foldl_concat, ih, assign_underKeys]

theorem foldl_upsert_underKeys (registry : Registry) (handles : List GameHandle) :
    (underKeys handles).foldl (fun entries entry => upsert entry.2 entries)
        (underKeys registry.games) =
      underKeys (registry.upsertAll handles).games := by
  induction handles using List.reverseRecOn with
  | nil => rfl
  | append_singleton handles handle ih =>
      rw [underKeys_concat, List.foldl_concat, ih, upsert_underKeys, upsertAll, upsertAll,
        List.foldl_concat, games_upsert]

theorem reconcile_underKeys (registry : Registry) (snapshot : RegistrySnapshot) :
    reconcile snapshot (underKeys registry.games) =
      underKeys (registry.applySnapshot snapshot).games := by
  have retained :
      (underKeys registry.games).filter
          (fun entry => ((reported snapshot).lookup entry.1).isSome) =
        underKeys (registry.retain snapshot.reported).games := by
    rw [underKeys, List.filter_map, reported_eq_underKeys]
    simp only [Function.comp_def, lookup_underKeys]
    rfl
  unfold reconcile
  rw [retained, reported_eq_underKeys, foldl_upsert_underKeys]
  rfl

end Table

/-- The registry as a table, each handle under the key that it carries. -/
def table (registry : Registry) : Table := ⟨Table.underKeys registry.games, registry.active⟩

theorem table_edit (registry : Registry) (edit : Edit) :
    (registry.edit edit).table = registry.table.edit edit := by
  cases edit with
  | upsert handle =>
      simp only [Registry.edit, Table.edit, table, games_upsert, active_upsert,
        Table.upsert_underKeys]
  | setActive key =>
      cases key with
      | none => rfl
      | some key =>
          -- The table finds something under a key exactly if the registry knows the key.
          have known : (registry.table.entries.lookup key).isSome = registry.contains key := by
            rw [table, Table.lookup_underKeys]
            rfl
          simp only [Registry.edit, setActive, Table.edit, known]
          by_cases empty : key = ""
          · simp only [empty, if_true]
            rfl
          · cases registry.contains key <;> simp only [empty, if_true, if_false] <;> rfl
  | clearActive => rfl
  | applySnapshot snapshot =>
      have entries : Table.reconcile snapshot registry.table.entries =
          Table.underKeys (registry.applySnapshot snapshot).games :=
        Table.reconcile_underKeys registry snapshot
      simp only [Registry.edit, Table.edit, entries, Table.lookup_underKeys]
      rfl

theorem table_editAll (registry : Registry) (edits : List Edit) :
    (registry.editAll edits).table = registry.table.editAll edits := by
  induction edits generalizing registry with
  | nil => rfl
  | cons edit edits ih =>
      show ((registry.edit edit).editAll edits).table = (registry.table.edit edit).editAll edits
      rw [ih, table_edit]

/-! ## The main statement -/

/-- What can be relied on of a registry: its games, each under its key, and its selection. -/
structure Sound (registry : Registry) : Prop where
  /-- No key is listed twice. -/
  distinct : (keys registry.games).Nodup
  /-- A game is found under the key that it carries, and under no other. -/
  found : ∀ key handle,
    registry.get? key = some handle ↔ handle ∈ registry.games ∧ handle.publicKey = key
  selected : ∀ key, registry.active = some key → key ≠ "" ∧ key ∈ keys registry.games
  /-- There is an active game exactly if a key is selected, and it is the listed one with that key.
  -/
  active : registry.activeHandle?.isSome = registry.active.isSome
  shown : ∀ handle, registry.activeHandle? = some handle →
    handle ∈ registry.games ∧ registry.active = some handle.publicKey ∧
      registry.selectionLabel = handle.label
  unselected : registry.selectionLabel = noSelectionLabel ↔ registry.active = none
  /-- A key is refused exactly if it is neither empty nor listed. -/
  refused : ∀ key error, registry.setActive key = .error error ↔
    ∃ other, key = some other ∧ other ≠ "" ∧ other ∉ keys registry.games ∧
      error = .unknownHandle other
  unchanged : ∀ key error, registry.setActive key = .error error →
    registry.edit (.setActive key) = registry

theorem WellFormed.sound (well : registry.WellFormed) : registry.Sound where
  distinct := well.distinct
  found _ _ := well.get?_eq_some_iff
  selected := well.selected
  active := well.isSome_activeHandle?
  shown handle found := by
    obtain ⟨mem, active⟩ := well.activeHandle?_eq_some_iff.mp found
    refine ⟨mem, active, ?_⟩
    rw [selectionLabel, found]
  unselected := well.selectionLabel_eq_noSelectionLabel_iff
  refused key error := by
    cases key with
    | none => simp [setActive]
    | some key =>
        rw [setActive_eq_error_iff, ← Bool.not_eq_true, contains_iff_mem_keys]
        simp
  unchanged key error refused := by simp only [edit, refused]

end Registry

/-- **Sound registries.** Whatever the edits of an empty registry, it lists each key once, finds
each game under its own key, and has a known game selected or none. A table that is edited alike
holds the listed games, each under the key that it carries. -/
theorem edited_registry_is_sound (edits : List Registry.Edit) :
    (Registry.editAll {} edits).Sound ∧
      Registry.Table.editAll {} edits = (Registry.editAll {} edits).table :=
  ⟨(Registry.wellFormed_editAll Registry.wellFormed_empty edits).sound,
    (Registry.table_editAll {} edits).symm⟩

/-- The empty key is listed and not selected, a rename keeps the place, and a snapshot that repeats
a key and drops the selected game clears the selection. -/
example :
    Registry.editAll {}
      [.upsert ⟨"", "nobody"⟩, .upsert ⟨"k1", "Ada"⟩, .setActive (some ""), .setActive (some "k1"),
        .upsert ⟨"", "someone"⟩, .setActive (some "k2"),
        .applySnapshot ⟨[⟨"k2", "Bob"⟩, ⟨"", "someone"⟩, ⟨"k2", "Bo"⟩], some "k1"⟩] =
      ⟨[⟨"", "someone"⟩, ⟨"k2", "Bo"⟩], none⟩ := by
  decide

end GameClient
