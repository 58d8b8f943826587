import GameClient.Directory
import GameClient.Toml.Document
import GameClient.Wire.Config

/-!
# Configuration from files

A configuration file is a TOML text. Fields that it does not give have their default values.
-/

namespace GameClient.Config

/-- Reads a configuration from a TOML text; `path` says in an error where it came from. -/
def ofToml (text path : String) : Except ConfigError Config :=
  match Toml.read? text with
  | none => .error (.parse path)
  | some document =>
    match Wire.decodeConfig? .skipped document.toJson with
    | some config => .ok config
    | none => .error (.parse path)

def load (directory : Directory) (path : String) : Except ConfigError Config :=
  match directory.readText path with
  | .error error => .error (.read path error.message)
  | .ok text => ofToml text path

end GameClient.Config
