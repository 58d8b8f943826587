import GameClient.Registry.Handle

/-!
# Snapshots of the registry

The backend reports all games and the one it has loaded. A report may name a key more than once;
the key then stands where it came first, under the name that it was given last.
-/

namespace GameClient

open Text (inspect inspectRecord)

/-- The games that the backend reports, and the key of the one that is loaded. -/
structure RegistrySnapshot where
  sequencers : List GameHandle
  loaded : Option String
  deriving DecidableEq, Repr

namespace GameHandle

def find? (key : String) (handles : List GameHandle) : Option GameHandle :=
  handles.find? fun handle => handle.publicKey == key

/-- Puts a handle in the place of the one with its key, or at the end if there is none. -/
def put (handle : GameHandle) : List GameHandle → List GameHandle
  | [] => [handle]
  | other :: rest =>
    if other.publicKey = handle.publicKey then handle :: rest else other :: put handle rest

def putAll (handles : List GameHandle) (onto : List GameHandle) : List GameHandle :=
  handles.foldl (fun known handle => put handle known) onto

end GameHandle

namespace RegistrySnapshot

def ofPairs (pairs : List (String × String)) (loaded : Option String) : RegistrySnapshot :=
  { sequencers := pairs.map fun (key, name) => ⟨key, name⟩, loaded }

/-- The reported games, each key once. -/
def reported (snapshot : RegistrySnapshot) : List GameHandle :=
  GameHandle.putAll snapshot.sequencers []

/-- The key that the snapshot selects: an empty one selects nothing. -/
def selected? (snapshot : RegistrySnapshot) : Option String := snapshot.loaded.filter (· ≠ "")

instance : Text.Inspect RegistrySnapshot where
  inspect snapshot :=
    inspectRecord "RegistrySnapshot"
      [("sequencers", inspect snapshot.sequencers), ("loaded", inspect snapshot.loaded)]

end RegistrySnapshot

end GameClient
