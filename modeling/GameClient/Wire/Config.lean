import GameClient.Config
import GameClient.Wire.Session

/-!
# Configurations on the wire

Every field of a configuration may be left out. Where a configuration is read from a text for
people, items of an array beyond the fields are skipped.
-/

namespace GameClient.Wire

def decodeChat? (surplus : Surplus) (value : Json) : Option ChatConfig :=
  let default : ChatConfig := {}
  match defaulted? surplus ["scrollback"] value with
  | some [scrollback] => (optional? default.scrollback scrollback).map ChatConfig.mk
  | _ => none

instance : Wire ChatConfig where
  encode chat := .object [("scrollback", encode chat.scrollback)]
  decode? := decodeChat? .refused

/-- Reads a field that may be missing. -/
def fieldOr? {α : Type} (default : α) (decode : Json → Option α) : Option Json → Option α
  | none => some default
  | some value => decode value

def decodeConfig? (surplus : Surplus) (value : Json) : Option Config :=
  let default : Config := {}
  match defaulted? surplus ["finalize", "chat", "log_filter"] value with
  | some [finalize, chat, logFilter] =>
    match fieldOr? default.finalize (decodeSettings? surplus) finalize,
      fieldOr? default.chat (decodeChat? surplus) chat,
      optional? default.logFilter logFilter with
    | some finalize, some chat, some logFilter => some { finalize, chat, logFilter }
    | _, _, _ => none
  | _ => none

instance : Wire Config where
  encode config :=
    .object [("finalize", encode config.finalize), ("chat", encode config.chat),
      ("log_filter", encode config.logFilter)]
  decode? := decodeConfig? .refused

end GameClient.Wire
