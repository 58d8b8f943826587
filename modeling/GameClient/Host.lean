import GameClient.Client
import GameClient.Config.File
import GameClient.Config.Variables
import GameClient.Host.Arguments

/-!
# The host

A program that sets the client up without a backend, so that a configuration can be tried: it loads
the configuration, tries to create a game if it is given a nickname, and prints what the client
shows.
-/

namespace GameClient.Host

/-- What a run of the program leaves: its exit code and what it printed. -/
structure Outcome where
  code : UInt8
  output : String := ""
  errors : String := ""
  deriving DecidableEq, Repr

/-- Texts, each on a line of its own. -/
def lines (texts : List String) : String := String.join (texts.map (· ++ "\n"))

def helpText : String :=
  lines [
    "Boot the mining game client core without a backend",
    "",
    "Usage: app-host [OPTIONS]",
    "",
    "Options:",
    "  -c, --config <CONFIG>      Config file path",
    "  -v, --verbose              Enable verbose logging",
    "      --nickname <NICKNAME>  Attempt to create a game under this nickname",
    "  -h, --help                 Print help"]

def failure (code : UInt8) (label text : String) : Outcome :=
  { code, errors := label ++ ": " ++ text ++ "\n" }

/-- The configuration that a run uses, or what is said if there is none. -/
def configFor (options : Options) (files : Directory) (environment : List (String × String)) :
    Except String Config := do
  let loaded : Config ← match options.config with
    | none => .ok {}
    | some path => (Config.load files path).mapError fun _ => "loading " ++ path
  let (merged, outcome) := loaded.mergeVariables environment
  outcome.mapError ConfigError.message
  merged.validate.mapError ConfigError.message
  return merged

/-- Tries to create a game, and says so if that fails. -/
def tryToCreate (client : Client) (nickname : String) : Client × List String :=
  let (client, report) := client.step (.start (.createOrJoin (.new nickname)) Gateway.offline)
  match report.outcome with
  | .completed (.error error) =>
    (client, ["create failed [" ++ error.category.label ++ "]: " ++ error.message])
  | _ => (client, [])

def describe (client : Client) : List String :=
  let session := client.core.session.value
  let registry := client.core.registry.value
  ["Known games: " ++ registry.games.length.repr,
    "Selected: " ++ registry.selectionLabel,
    "Session: " ++ session.phase.text]
    ++ session.lastError.toList.map ("Last error: " ++ ·)

def runWith (options : Options) (files : Directory) (environment : List (String × String)) :
    Outcome :=
  match configFor options files environment with
  | .error text => failure 1 "Error" text
  | .ok config =>
    match Client.new config with
    | .error error => failure 1 "Error" error.message
    | .ok client =>
      let (client, said) := match options.nickname with
        | none => (client, [])
        | some nickname => tryToCreate client nickname
      { code := 0, output := lines (said ++ describe client) }

def run (arguments : List String) (files : Directory) (environment : List (String × String)) :
    Outcome :=
  match Options.ofArguments arguments with
  | .error .help => { code := 0, output := helpText }
  | .error (.usage error) => failure 2 "error" error.message
  | .ok options => runWith options files environment

end GameClient.Host
