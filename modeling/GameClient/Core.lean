import GameClient.Cell
import GameClient.Chat.Digest
import GameClient.Config
import GameClient.Core.Event
import GameClient.Core.Latches
import GameClient.Purchase
import GameClient.Registry
import GameClient.Session

/-!
# The core

The core owns what the client knows: the registry of games, the session, the chat and the purchase
form, each in a cell, and a latch for each action. The host pushes snapshots into it; actions change
it before and after their calls to the backend, and never in between.

While an action is under way its latch is held and its flag in the view is set. `release` undoes
both: it frees the latch first, and clears the flag if it is still set.
-/

namespace GameClient

open Text (inspect inspectOpenRecord)

structure Core where
  config : Config
  registry : Cell Registry := ⟨{}, 0⟩
  session : Cell Session := ⟨{}, 0⟩
  feed : Chat.Feed Chat.Digest
  chat : Cell Chat.View := ⟨{}, 0⟩
  purchase : Cell Purchase := ⟨{}, 0⟩
  latches : Latches := {}

/-- What a piece of work leaves: the state, the events it logged, and its value. -/
structure Turn (α : Type) where
  core : Core
  log : List Event := []
  value : α

namespace Core

/-- A core at its start, if its configuration can be used. -/
def new (config : Config) : Except ConfigError Core :=
  match config.validate with
  | .error error => .error error
  | .ok () => .ok { config, feed := Chat.Feed.new config.chat.scrollback.toNat }

/-! ### Cells -/

def updateSession (core : Core) (change : Session → Session) : Core :=
  { core with session := core.session.update change }

def updatePurchase (core : Core) (change : Purchase → Purchase) : Core :=
  { core with purchase := core.purchase.update change }

def surface (core : Core) (error : ActionError) : Core :=
  core.updateSession fun session => { session with lastError := some error.message }

/-! ### Latches and flags -/

/-- The flag of an action in the view. -/
def flag (core : Core) : Action → Bool
  | .createOrJoin => core.session.value.creating
  | .finalize => core.session.value.finalizing
  | .switch => core.session.value.switching
  | .loadPurchaseSchema => core.purchase.value.loadingSchema
  | .purchaseOffer => core.purchase.value.submitting

/-- Clears the flag of an action, which counts as a write if it was set. -/
def clearFlag (core : Core) : Action → Core
  | .createOrJoin =>
    { core with
      session := (core.session.updateIf fun s => ({ s with creating := false }, s.creating)).1 }
  | .finalize =>
    { core with
      session := (core.session.updateIf fun s => ({ s with finalizing := false }, s.finalizing)).1 }
  | .switch =>
    { core with
      session := (core.session.updateIf fun s => ({ s with switching := false }, s.switching)).1 }
  | .loadPurchaseSchema =>
    { core with
      purchase := (core.purchase.updateIf fun p =>
        ({ p with loadingSchema := false }, p.loadingSchema)).1 }
  | .purchaseOffer =>
    { core with
      purchase := (core.purchase.updateIf fun p =>
        ({ p with submitting := false }, p.submitting)).1 }

def acquire (core : Core) (action : Action) : Except ActionError Core :=
  match (core.latches.get action).tryAcquire with
  | .error pending => .error pending
  | .ok latch => .ok { core with latches := core.latches.put latch action }

def freeLatch (core : Core) (action : Action) : Core :=
  { core with latches := core.latches.put (core.latches.get action).release action }

/-- Ends an action, or gives it up: frees its latch, then clears its flag. -/
def release (core : Core) (action : Action) : Core := (core.freeLatch action).clearFlag action

/-! ### Snapshots from the host -/

/-- What is logged of a snapshot that selects `selected`, by the selection after it. -/
def missingSelection (selected active : Option String) : List Event :=
  match selected, active with
  | some key, none =>
    [{ level := .debug
       message := "loaded game missing from snapshot; clearing selection"
       fields := [("public_key", .text key)] }]
  | _, _ => []

/-- Takes over a snapshot of the registry, which counts as a write if it makes a difference. -/
def pushRegistry (core : Core) (snapshot : RegistrySnapshot) : Turn Unit :=
  let after := core.registry.value.applySnapshot snapshot
  let registry := core.registry.updateIf fun before => (after, !after.sameAs before)
  { core := { core with registry := registry.1 }
    log :=
      { level := .debug
        message := "applying registry snapshot"
        fields := [("games", .number snapshot.sequencers.length),
          ("loaded", .text (inspect snapshot.loaded))] }
      :: missingSelection snapshot.selected? after.active
    value := () }

/-- Takes over a snapshot of the chat; says whether it differs from the one before. -/
def pushChat (core : Core) (messages : List Chat.Message) : Turn Bool :=
  match core.feed.applySnapshot Chat.Digest.ofSnapshot messages with
  | (_, false) => { core, value := false }
  | (feed, true) =>
    { core := { core with feed, chat := core.chat.set feed.view }
      log := [
        { level := .debug
          message := "chat feed updated"
          fields := [("entries", .number feed.view.entries.length),
            ("new", .number feed.view.newSinceLast)] }]
      value := true }

instance : Text.Inspect Core where
  inspect core :=
    inspectOpenRecord "AppCore"
      [("config", inspect core.config), ("registry", inspect core.registry),
       ("session", inspect core.session), ("latches", inspect core.latches)]

end Core

end GameClient
