import GameClient.Error

/-!
# Tickets and settings

Who creates a game gets a ticket: the code to hand to others, and a passcode that only the creator
knows and that finalizing needs. The settings say how long the game runs and what players start
with. A passcode is never part of an inspection text.
-/

namespace GameClient.Session

open Text (inspect inspectRecord)

/-- What stands for a passcode in an inspection text. -/
def redacted : String := "<redacted>"

/-- The credentials of a game that was created. -/
structure Ticket where
  inviteCode : String
  passcode : String
  deriving DecidableEq, Repr

instance : Text.Inspect Ticket where
  inspect ticket :=
    inspectRecord "NewGameTicket"
      [("invite_code", inspect ticket.inviteCode), ("passcode", inspect redacted)]

/-- Both parts of a ticket are there. -/
def Ticket.isComplete (ticket : Ticket) : Bool := ticket.inviteCode ≠ "" && ticket.passcode ≠ ""

structure FinalizationParams where
  inviteCode : String
  passcode : String
  finishTimeMs : UInt64
  startAmount : UInt64
  deriving DecidableEq, Repr

instance : Text.Inspect FinalizationParams where
  inspect params :=
    inspectRecord "FinalizationParams"
      [("invite_code", inspect params.inviteCode), ("passcode", inspect redacted),
       ("finish_time_ms", inspect params.finishTimeMs),
       ("start_amount", inspect params.startAmount)]

/-- How long a game runs, in milliseconds, and what players start with. -/
structure GameSettings where
  finishTimeMs : UInt64 := 3600000
  startAmount : UInt64 := 1000000
  deriving DecidableEq, Repr

namespace GameSettings

instance : Text.Inspect GameSettings where
  inspect settings :=
    inspectRecord "GameSettings"
      [("finish_time_ms", inspect settings.finishTimeMs),
       ("start_amount", inspect settings.startAmount)]

/-- Both numbers have to be positive. -/
def validate (settings : GameSettings) : Except ValidationError Unit :=
  if settings.finishTimeMs = 0 then .error .nonPositiveFinishTime
  else if settings.startAmount = 0 then .error .nonPositiveStartAmount
  else .ok ()

def finalizationParams (settings : GameSettings) (ticket : Ticket) :
    Except ValidationError FinalizationParams :=
  match settings.validate with
  | .error error => .error error
  | .ok () =>
    if ticket.isComplete then
      .ok {
        inviteCode := ticket.inviteCode
        passcode := ticket.passcode
        finishTimeMs := settings.finishTimeMs
        startAmount := settings.startAmount }
    else .error .missingCredentials

end GameSettings

end GameClient.Session
