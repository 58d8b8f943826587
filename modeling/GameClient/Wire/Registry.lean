import GameClient.Registry.Snapshot
import GameClient.Wire.Record

/-!
# Games on the wire

A handle is a record of key and name. In a snapshot written as an object the loaded game may be left
out.
-/

namespace GameClient.Wire

instance : Wire GameHandle where
  encode handle :=
    .object [("public_key", encode handle.publicKey), ("display_name", encode handle.displayName)]
  decode? value :=
    match record? ["public_key", "display_name"] value with
    | some [key, name] =>
      match required? key, required? name with
      | some publicKey, some displayName => some { publicKey, displayName }
      | _, _ => none
    | _ => none

instance : Wire RegistrySnapshot where
  encode snapshot :=
    .object [("sequencers", encode snapshot.sequencers), ("loaded", encode snapshot.loaded)]
  decode? value :=
    match record? ["sequencers", "loaded"] value with
    | some [sequencers, loaded] =>
      match required? sequencers, optional? none loaded with
      | some sequencers, some loaded => some { sequencers, loaded }
      | _, _ => none
    | _ => none

end GameClient.Wire
