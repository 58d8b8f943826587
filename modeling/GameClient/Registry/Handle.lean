import GameClient.Text.Inspect

/-!
# Game handles

A game is known by its public key and shown by a name. Where space is short, the first characters of
the key stand for it.
-/

namespace GameClient

open Text (inspect inspectRecord)

/-- A game that the client knows about. -/
structure GameHandle where
  publicKey : String
  displayName : String
  deriving DecidableEq, Repr

namespace GameHandle

def shortKeyLength : Nat := 16

def shortKey (handle : GameHandle) : String :=
  String.ofList (handle.publicKey.toList.take shortKeyLength)

/-- The name and the start of the key. -/
def label (handle : GameHandle) : String := handle.displayName ++ " -- " ++ handle.shortKey ++ "..."

instance : Text.Inspect GameHandle where
  inspect handle :=
    inspectRecord "GameHandle"
      [("public_key", inspect handle.publicKey), ("display_name", inspect handle.displayName)]

end GameHandle

end GameClient
