import GameClient.Text.Inspect

/-!
# View cells

A cell holds the current value of a view and counts how often it was written. A reader keeps a
subscription, which remembers the count it has seen; polling it gives the value only if the cell
was written since. The count is a 64-bit word.
-/

namespace GameClient

open Text (inspect inspectRecord)

/-- A value and the number of times it was written. -/
structure Cell (α : Type) where
  value : α
  version : UInt64 := 0
  deriving DecidableEq, Repr

/-- What a reader of a cell remembers: the version that it saw last. -/
structure Subscription where
  observed : UInt64
  deriving DecidableEq, Repr

namespace Cell

variable {α : Type}

def set (cell : Cell α) (value : α) : Cell α := ⟨value, cell.version + 1⟩

/-- Changes the value; this counts as a write whatever the change is. -/
def update (cell : Cell α) (change : α → α) : Cell α := cell.set (change cell.value)

/-- Changes the value, which counts as a write only if `change` says that it made a difference. -/
def updateIf (cell : Cell α) (change : α → α × Bool) : Cell α × Bool :=
  let (value, changed) := change cell.value
  (⟨value, if changed then cell.version + 1 else cell.version⟩, changed)

def subscribe (cell : Cell α) : Subscription := ⟨cell.version⟩

instance [Text.Inspect α] : Text.Inspect (Cell α) where
  inspect cell :=
    inspectRecord "Dynamic" [("value", inspect cell.value), ("version", inspect cell.version)]

@[simp] theorem value_set (cell : Cell α) (a : α) : (cell.set a).value = a := rfl

@[simp] theorem version_set (cell : Cell α) (a : α) :
    (cell.set a).version = cell.version + 1 := rfl

@[simp] theorem value_update (cell : Cell α) (f : α → α) :
    (cell.update f).value = f cell.value := rfl

@[simp] theorem value_updateIf (cell : Cell α) (f : α → α × Bool) :
    (cell.updateIf f).1.value = (f cell.value).1 := rfl

@[simp] theorem version_updateIf (cell : Cell α) (f : α → α × Bool) :
    (cell.updateIf f).1.version =
      if (f cell.value).2 then cell.version + 1 else cell.version := rfl

end Cell

namespace Subscription

variable {α : Type}

def hasChanged (subscription : Subscription) (cell : Cell α) : Bool :=
  subscription.observed < cell.version

/-- The value of the cell if it was written since the last look, and what is remembered then. -/
def poll (subscription : Subscription) (cell : Cell α) : Option α × Subscription :=
  if subscription.hasChanged cell then (some cell.value, ⟨cell.version⟩) else (none, subscription)

theorem isSome_poll (subscription : Subscription) (cell : Cell α) :
    (subscription.poll cell).1.isSome = subscription.hasChanged cell := by
  unfold poll
  split <;> simp_all

end Subscription

end GameClient
