import GameClient.Json.Payload
import GameClient.Session
import GameClient.Wire.Record

/-!
# Sessions on the wire

A request says by its mode which kind it is, and it is taken in as a whole: a part that cannot be
read spoils it even where the part has no meaning.
-/

namespace GameClient.Wire

open Session

instance : Wire Phase where
  encode phase := .string phase.name
  decode? value := (unitVariant? value).bind Phase.ofName?

instance : Wire Ticket where
  encode ticket :=
    .object [("invite_code", encode ticket.inviteCode), ("passcode", encode ticket.passcode)]
  decode? value :=
    match record? ["invite_code", "passcode"] value with
    | some [code, passcode] =>
      match required? code, required? passcode with
      | some inviteCode, some passcode => some { inviteCode, passcode }
      | _, _ => none
    | _ => none

instance : Wire FinalizationParams where
  encode params :=
    .object [("code", encode params.inviteCode), ("passcode", encode params.passcode),
      ("finish_time", encode params.finishTimeMs), ("start_amount", encode params.startAmount)]
  decode? value :=
    match record? ["code", "passcode", "finish_time", "start_amount"] value with
    | some [code, passcode, time, amount] =>
      match required? code, required? passcode, required? time, required? amount with
      | some inviteCode, some passcode, some finishTimeMs, some startAmount =>
        some { inviteCode, passcode, finishTimeMs, startAmount }
      | _, _, _, _ => none
    | _ => none

/-- Reads settings; what is missing is taken from the default settings. -/
def decodeSettings? (surplus : Surplus) (value : Json) : Option GameSettings :=
  let default : GameSettings := {}
  match defaulted? surplus ["finish_time_ms", "start_amount"] value with
  | some [time, amount] =>
    match optional? default.finishTimeMs time, optional? default.startAmount amount with
    | some finishTimeMs, some startAmount => some { finishTimeMs, startAmount }
    | _, _ => none
  | _ => none

instance : Wire GameSettings where
  encode settings :=
    .object [("finish_time_ms", encode settings.finishTimeMs),
      ("start_amount", encode settings.startAmount)]
  decode? := decodeSettings? .refused

instance : Wire CreationOutcome where
  encode
    | .created ticket => .object [("Created", encode ticket)]
    | .joined => .string "Joined"
  decode? value :=
    match value with
    | .object [("Created", ticket)] => (decode? ticket).map .created
    | value => if unitVariant? value = some "Joined" then some .joined else none

/-- Reads the fields of a request of a mode from an object. -/
def decodeRequestFields? (fields : List (String × Json)) (mode : String) :
    Option CreationRequest :=
  if mode = "New" then
    match singles? fields ["nickname"] with
    | some [nickname] => (required? nickname).map .new
    | _ => none
  else if mode = "Join" then
    match singles? fields ["nickname", "invite_code"] with
    | some [nickname, inviteCode] =>
      match required? nickname, required? inviteCode with
      | some nickname, some inviteCode => some (.join nickname inviteCode)
      | _, _ => none
    | _ => none
  else none

def decodeRequest? : Json → Option CreationRequest
  | .object fields =>
    match single? "mode" fields with
    | some (some (.string mode)) => decodeRequestFields? fields mode
    | _ => none
  | .array [.string "New", .string nickname] => some (.new nickname)
  | .array [.string "Join", .string nickname, .string inviteCode] =>
    some (.join nickname inviteCode)
  | _ => none

instance : Wire CreationRequest where
  encode
    | .new nickname => .object [("mode", .string "New"), ("nickname", encode nickname)]
    | .join nickname inviteCode =>
      .object [("mode", .string "Join"), ("nickname", encode nickname),
        ("invite_code", encode inviteCode)]
  decode? value := if value.normalize?.isSome then decodeRequest? value else none

end GameClient.Wire
