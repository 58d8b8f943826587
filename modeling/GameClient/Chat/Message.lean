import GameClient.Text.Inspect

/-!
# Chat messages

The backend numbers the messages; the number is what a message is known by.
-/

namespace GameClient.Chat

open Text (inspect inspectRecord)

structure Message where
  sequence : UInt64
  author : String
  text : String
  deriving DecidableEq, Repr

instance : Text.Inspect Message where
  inspect message :=
    inspectRecord "ChatMessage"
      [("sequence", inspect message.sequence), ("author", inspect message.author),
       ("text", inspect message.text)]

end GameClient.Chat
