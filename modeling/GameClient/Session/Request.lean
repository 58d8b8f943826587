import GameClient.Error
import GameClient.Text.Blank

/-!
# Requests for a session

A user creates a game or joins one. What is typed is taken without the blanks around it, and has to
have something left.
-/

namespace GameClient.Session

open Text (inspect inspectRecord trim)

inductive CreationRequest where
  | new (nickname : String)
  | join (nickname inviteCode : String)
  deriving DecidableEq, Repr

namespace CreationRequest

/-- The nickname, without the blanks around it. -/
def nickname : CreationRequest → String
  | new name => trim name
  | join name _ => trim name

/-- The request with its fields cleaned, or what is missing. -/
def validated : CreationRequest → Except ValidationError CreationRequest
  | new name =>
    if trim name = "" then .error .missingNickname else .ok (new (trim name))
  | join name code =>
    if trim name = "" then .error .missingNickname
    else if trim code = "" then .error .missingInviteCode
    else .ok (join (trim name) (trim code))

instance : Text.Inspect CreationRequest where
  inspect
    | new name => inspectRecord "New" [("nickname", inspect name)]
    | join name code =>
      inspectRecord "Join" [("nickname", inspect name), ("invite_code", inspect code)]

end CreationRequest

end GameClient.Session
