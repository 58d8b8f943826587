import GameClient.Cell
import GameClient.Keyed

/-!
# Boards of cells

A board holds cells under names. Two names may stand for one cell, and each subscription belongs
to the cell it was taken from, whatever the names mean later. A board answers one step after the
other.
-/

namespace GameClient.Cell

/-- Cells, the names for them, and subscriptions to them by name. -/
structure Board (α : Type) where
  cells : List (Cell α) := []
  /-- Each name with the number of the cell that it stands for. -/
  names : List (String × Nat) := []
  /-- Each subscription with its name and the number of its cell. -/
  subscriptions : List (String × Nat × Subscription) := []

inductive Board.Step (α : Type) where
  | set (name : String) (value : α)
  | update (name : String) (change : α → α)
  | updateIf (name : String) (change : α → α × Bool)
  | get (name : String)
  /-- Another name for the same cell. -/
  | clone (name other : String)
  /-- A cell of its own under a name. -/
  | create (name : String) (value : α)
  | subscribe (name subscription : String)
  | poll (subscription : String)
  | hasChanged (subscription : String)
  | peek (subscription : String)

inductive Board.Answer (α : Type) where
  | done
  | value (value : α)
  | changed (verdict : Bool)
  | polled (value : Option α)
  /-- No cell, or no subscription, has that name. -/
  | unknown

namespace Board

variable {α : Type}

/-- The number of the cell that a name stands for. -/
def number? (board : Board α) (name : String) : Option Nat := board.names.lookup name

def cell? (board : Board α) (name : String) : Option (Cell α) := do
  board.cells[← board.number? name]?

def subscription? (board : Board α) (name : String) : Option (Nat × Subscription × Cell α) := do
  let (number, subscription) ← board.subscriptions.lookup name
  let cell ← board.cells[number]?
  pure (number, subscription, cell)

/-- Changes the cell that a name stands for. -/
def modify (board : Board α) (name : String) (change : Cell α → Cell α × Answer α) :
    Board α × Answer α :=
  match board.number? name with
  | none => (board, .unknown)
  | some number =>
    match board.cells[number]? with
    | none => (board, .unknown)
    | some cell =>
      let (cell, answer) := change cell
      ({ board with cells := board.cells.set number cell }, answer)

def insert (board : Board α) (name : String) (value : α) : Board α :=
  { board with
    cells := board.cells ++ [{ value }]
    names := Keyed.assign name board.cells.length board.names }

def single (name : String) (value : α) : Board α := insert {} name value

def step (board : Board α) : Step α → Board α × Answer α
  | .set name value => board.modify name fun cell => (cell.set value, .done)
  | .update name change =>
    board.modify name fun cell => (cell.update change, .value (change cell.value))
  | .updateIf name change =>
    board.modify name fun cell => ((cell.updateIf change).1, .changed (cell.updateIf change).2)
  | .get name => board.modify name fun cell => (cell, .value cell.value)
  | .clone name other =>
    match board.number? name with
    | none => (board, .unknown)
    | some number => ({ board with names := Keyed.assign other number board.names }, .done)
  | .create name value => (board.insert name value, .done)
  | .subscribe name subscription =>
    match board.number? name, board.cell? name with
    | some number, some cell =>
      ({ board with
          subscriptions := Keyed.assign subscription (number, cell.subscribe) board.subscriptions },
        .done)
    | _, _ => (board, .unknown)
  | .poll name =>
    match board.subscription? name with
    | none => (board, .unknown)
    | some (number, subscription, cell) =>
      let (value, subscription) := subscription.poll cell
      ({ board with subscriptions := Keyed.assign name (number, subscription) board.subscriptions },
        .polled value)
  | .hasChanged name =>
    match board.subscription? name with
    | none => (board, .unknown)
    | some (_, subscription, cell) => (board, .changed (subscription.hasChanged cell))
  | .peek name =>
    match board.subscription? name with
    | none => (board, .unknown)
    | some (_, _, cell) => (board, .value cell.value)

/-- Takes steps one after the other, with the answer and the board after each. -/
def run (board : Board α) : List (Step α) → List (Answer α × Board α)
  | [] => []
  | step :: steps =>
    let (board, answer) := board.step step
    (answer, board) :: board.run steps

def versions (board : Board α) : List (String × UInt64) :=
  board.names.filterMap fun (name, number) => do
    let cell ← board.cells[number]?
    pure (name, cell.version)

/-- The version that each subscription saw last. -/
def observed (board : Board α) : List (String × UInt64) :=
  board.subscriptions.map fun (name, _, subscription) => (name, subscription.observed)

end Board

end GameClient.Cell
