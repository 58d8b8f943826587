import GameClient.Config
import GameClient.Text.Blank
import GameClient.Text.Numeral

/-!
# Configuration from variables

Variables of the environment override what a file says. They are taken one after the other, and the
first that cannot be used ends this; what the variables before it changed stays changed.
-/

namespace GameClient.Config

def finishTimeVariable : String := "MWF_FINALIZE_FINISH_TIME_MS"

def startAmountVariable : String := "MWF_FINALIZE_START_AMOUNT"

def scrollbackVariable : String := "MWF_CHAT_SCROLLBACK"

def logFilterVariable : String := "MWF_LOG_FILTER"

/-- Reads the number that a variable holds; blanks around it do not matter. -/
def readVariable (key value : String) : Except ConfigError UInt64 :=
  match Text.readWord (Text.trim value) with
  | .ok n => .ok n
  | .error fault => .error (.invalid key fault.message)

/-- Takes over one variable. One of another name is passed over. -/
def mergeVariable (config : Config) (key value : String) : Except ConfigError Config :=
  if key = finishTimeVariable then
    (readVariable key value).map fun n =>
      { config with finalize := { config.finalize with finishTimeMs := n } }
  else if key = startAmountVariable then
    (readVariable key value).map fun n =>
      { config with finalize := { config.finalize with startAmount := n } }
  else if key = scrollbackVariable then
    (readVariable key value).map fun n => { config with chat := { scrollback := n } }
  else if key = logFilterVariable then .ok { config with logFilter := value }
  else .ok config

/-- Takes over variables one after the other, up to the first that cannot be used. -/
def mergeVariables (config : Config) :
    List (String × String) → Config × Except ConfigError Unit
  | [] => (config, .ok ())
  | (key, value) :: rest =>
    match config.mergeVariable key value with
    | .ok merged => merged.mergeVariables rest
    | .error error => (config, .error error)

end GameClient.Config
