import GameClient.Error
import GameClient.Registry.Snapshot

/-!
# The registry of games

The games that the client knows, in the order in which it learned of them, and the one that is
active. A snapshot of the backend is taken over by dropping what it does not report, adding what it
reports, and selecting what it says is loaded, so that the games keep their places.
-/

namespace GameClient

open Text (inspect inspectRecord inspectTable)

structure Registry where
  games : List GameHandle := []
  active : Option String := none
  deriving DecidableEq, Repr

namespace Registry

/-- What is shown when no game is active. -/
def noSelectionLabel : String := "No Key"

def get? (registry : Registry) (key : String) : Option GameHandle :=
  GameHandle.find? key registry.games

def contains (registry : Registry) (key : String) : Bool := (registry.get? key).isSome

def activeHandle? (registry : Registry) : Option GameHandle := registry.active.bind registry.get?

def selectionLabel (registry : Registry) : String :=
  match registry.activeHandle? with
  | some handle => handle.label
  | none => noSelectionLabel

/-- Adds a game, or renames the one of that key in its place; says whether this changed anything. -/
def upsert (registry : Registry) (handle : GameHandle) : Registry × Bool :=
  if registry.get? handle.publicKey = some handle then (registry, false)
  else ({ registry with games := GameHandle.put handle registry.games }, true)

/-- Selects a known game; no key, and the empty key, deselect. -/
def setActive (registry : Registry) : Option String → Except ActionError Registry
  | none => .ok { registry with active := none }
  | some key =>
    if key = "" then .ok { registry with active := none }
    else if registry.contains key then .ok { registry with active := some key }
    else .error (.unknownHandle key)

/-- Deselects; says whether a game was selected. -/
def clearActive (registry : Registry) : Registry × Bool :=
  ({ registry with active := none }, registry.active.isSome)

/-- Drops the games that are not among `reported`. -/
def retain (registry : Registry) (reported : List GameHandle) : Registry :=
  { registry with
    games := registry.games.filter fun handle =>
      (GameHandle.find? handle.publicKey reported).isSome }

def upsertAll (registry : Registry) (handles : List GameHandle) : Registry :=
  handles.foldl (fun known handle => (known.upsert handle).1) registry

/-- Takes over what the backend reports. A loaded game that is not reported is not selected. -/
def applySnapshot (registry : Registry) (snapshot : RegistrySnapshot) : Registry :=
  let updated := (registry.retain snapshot.reported).upsertAll snapshot.reported
  { updated with active := snapshot.selected?.filter updated.contains }

/-- The same games under the same names with the same selection, in whatever order. -/
def sameAs (a b : Registry) : Bool :=
  a.games.length == b.games.length
    && (a.games.all fun handle => b.get? handle.publicKey == some handle)
    && a.active == b.active

instance : Text.Inspect Registry where
  inspect registry :=
    inspectRecord "GameIdentityRegistry"
      [("known", inspectTable (registry.games.map fun handle =>
          (inspect handle.publicKey, inspect handle))),
       ("active", inspect registry.active)]

end Registry

end GameClient
