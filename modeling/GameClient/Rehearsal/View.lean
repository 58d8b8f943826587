import GameClient.Core

/-!
# Views

What a user interface can subscribe to: each of the four views that the core keeps in cells.
-/

namespace GameClient.Rehearsal

inductive View where
  | session
  | registry
  | chat
  | purchase
  deriving DecidableEq, Repr

inductive Shown where
  | session (session : Session)
  | registry (registry : Registry)
  | chat (view : Chat.View)
  | purchase (purchase : Purchase)

namespace View

/-- The cell of a view, with what it shows. -/
def cell (core : Core) : View → Cell Shown
  | session => ⟨.session core.session.value, core.session.version⟩
  | registry => ⟨.registry core.registry.value, core.registry.version⟩
  | chat => ⟨.chat core.chat.value, core.chat.version⟩
  | purchase => ⟨.purchase core.purchase.value, core.purchase.version⟩

end View

end GameClient.Rehearsal
