import GameClient.Chat.Message
import GameClient.Wire.Record

/-!
# Chat messages on the wire

A message is an array of its number, its author and its text.
-/

namespace GameClient.Wire

open Chat (Message)

instance : Wire Message where
  encode message := .array [encode message.sequence, encode message.author, encode message.text]
  decode?
    | .array [sequence, author, text] =>
      match decode? sequence, decode? author, decode? text with
      | some sequence, some author, some text => some { sequence, author, text }
      | _, _, _ => none
    | _ => none

end GameClient.Wire
