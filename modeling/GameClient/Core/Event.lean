import GameClient.Text.Inspect

/-!
# Log events

What the client reports for operators: a level, a fixed text, and named values.
-/

namespace GameClient

/-- How much an event matters. -/
inductive Level where
  | debug
  | info
  | warn
  | error
  deriving DecidableEq, Repr

def Level.name : Level → String
  | debug => "DEBUG"
  | info => "INFO"
  | warn => "WARN"
  | error => "ERROR"

inductive Detail where
  | text (value : String)
  | number (value : Nat)
  | flag (value : Bool)
  deriving DecidableEq, Repr

structure Event where
  level : Level
  message : String
  fields : List (String × Detail) := []
  deriving DecidableEq, Repr

end GameClient
