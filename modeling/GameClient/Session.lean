import GameClient.Session.Phase
import GameClient.Session.Request
import GameClient.Session.Ticket

/-!
# The session view

What a user interface shows of the session: its phase, the ticket of a game that waits to be
finalized, which of the actions are under way, and the last error.
-/

namespace GameClient

open Text (inspect inspectRecord inspectWrapped)

structure Session where
  phase : Session.Phase := .idle
  /-- The ticket of the game that was created last, until it is finalized. -/
  ticket : Option Session.Ticket := none
  creating : Bool := false
  finalizing : Bool := false
  switching : Bool := false
  /-- The last error that was shown; the next success clears it. -/
  lastError : Option String := none
  deriving DecidableEq, Repr

namespace Session

/-- What comes of creating or joining a game. -/
inductive CreationOutcome where
  | created (ticket : Ticket)
  | joined
  deriving DecidableEq, Repr

instance : Text.Inspect CreationOutcome where
  inspect
    | .created ticket => inspectWrapped "Created" (inspect ticket)
    | .joined => "Joined"

/-- The code to hand to others. -/
def inviteCode (session : Session) : Option String := session.ticket.map Ticket.inviteCode

/-- Finalizing is offered. -/
def canFinalize (session : Session) : Bool :=
  session.phase = .awaitingFinalization && !session.finalizing
    && session.ticket.any Ticket.isComplete

def submitLabel (session : Session) (join : Bool) : String :=
  (if join then "Join" else "New") ++ if session.creating then " Pending..." else " Game"

def finalizeLabel (session : Session) : String :=
  if session.finalizing then "Finalizing..." else "Finalize Game"

instance : Text.Inspect Session where
  inspect session :=
    inspectRecord "SessionState"
      [("phase", inspect session.phase), ("ticket", inspect session.ticket),
       ("creating", inspect session.creating), ("finalizing", inspect session.finalizing),
       ("switching", inspect session.switching), ("last_error", inspect session.lastError)]

end Session

end GameClient
