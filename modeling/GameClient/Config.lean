import GameClient.Chat.Feed
import GameClient.Session.Ticket

/-!
# Configuration

What can be set from outside: the settings that a game is finalized with unless others are given,
the length of the chat view, and the filter of the log.
-/

namespace GameClient

open Text (inspect inspectRecord)

structure ChatConfig where
  scrollback : UInt64 := UInt64.ofNat (Chat.Feed.defaultScrollback)
  deriving DecidableEq, Repr

instance : Text.Inspect ChatConfig where
  inspect chat := inspectRecord "ChatConfig" [("scrollback", inspect chat.scrollback)]

structure Config where
  finalize : Session.GameSettings := {}
  chat : ChatConfig := {}
  logFilter : String := "info"
  deriving DecidableEq, Repr

instance : Text.Inspect Config where
  inspect config :=
    inspectRecord "AppConfig"
      [("finalize", inspect config.finalize), ("chat", inspect config.chat),
       ("log_filter", inspect config.logFilter)]

/-- Why a configuration cannot be had. -/
inductive ConfigError where
  /-- The file cannot be read. -/
  | read (path reason : String)
  /-- The text is no configuration. -/
  | parse (path : String)
  /-- A value cannot be used. -/
  | invalid (key reason : String)
  deriving DecidableEq, Repr

/-- What is said about an error. Of a text that is no configuration this says which file it is, and
leaves open what is wrong with it. -/
def ConfigError.message : ConfigError → String
  | read path reason => "failed to read config file " ++ path ++ ": " ++ reason
  | parse path => "invalid config file " ++ path ++ ": "
  | invalid key reason => "invalid value for " ++ key ++ ": " ++ reason

/-- A configuration can be used: durations, amounts and lengths are positive. -/
def Config.validate (config : Config) : Except ConfigError Unit :=
  match config.finalize.validate with
  | .error error => .error (.invalid "finalize" error.message)
  | .ok () =>
    if config.chat.scrollback = 0 then
      .error (.invalid "chat.scrollback" "must be greater than zero")
    else .ok ()

end GameClient
