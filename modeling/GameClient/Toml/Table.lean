import GameClient.Keyed
import GameClient.Toml.Value

/-!
# Tables in the making

A table comes about in one of three ways: under a header of its own, as a step on the way of a
header to a deeper table, or as a step of a dotted key. What was written in one way cannot be
extended in another: a header may complete a table that deeper headers have only passed through,
a dotted key may extend only tables made by dotted keys, and a value is never extended.
-/

namespace GameClient.Toml

/-- What stands under a key. -/
inductive Node where
  | value (value : Value)
  /-- A table. It is `implicit` if it has no header of its own, and `dotted` if a dotted key made
  it. -/
  | table (implicit dotted : Bool) (entries : List (String × Node))
  /-- Tables under headers in double brackets. -/
  | tables (items : List (List (String × Node)))

/-- A table, and how it came about. -/
structure Table where
  implicit : Bool := false
  dotted : Bool := false
  entries : List (String × Node) := []

namespace Table

/-- The table as what stands under a key. -/
def node (table : Table) : Node := .table table.implicit table.dotted table.entries

def find? (table : Table) (key : String) : Option Node := table.entries.lookup key

def put (table : Table) (key : String) (node : Node) : Table :=
  { table with entries := Keyed.assign key node table.entries }

def erase (table : Table) (key : String) : Table :=
  { table with entries := Keyed.erase key table.entries }

/-- Changes the table at the end of a path, and makes the tables on the way that are missing.
`dotted` says whether the path belongs to a dotted key. -/
def alter {α : Type} (dotted : Bool) (change : Table → Option (α × Table)) (table : Table) :
    List String → Option (α × Table)
  | [] => change table
  | key :: path =>
    match table.find? key with
    | none =>
      (alter dotted change { implicit := true, dotted } path).map fun (a, child) =>
        (a, table.put key child.node)
    | some (.value _) => none
    | some (.table implicit madeDotted entries) =>
      if dotted && !implicit then none
      else
        (alter dotted change { implicit, dotted := madeDotted, entries } path).map
          fun (a, child) => (a, table.put key child.node)
    | some (.tables items) =>
      match items.getLast? with
      | none => none
      | some entries =>
        (alter dotted change { entries } path).map fun (a, child) =>
          (a, table.put key (.tables (items.dropLast ++ [child.entries])))

/-- Puts a value under a key, where nothing may stand yet. A key with dots in front has to lead to a
table made by dots, and a key without dots to one that was not. -/
def assign (table : Table) (path : List String) (key : String) (value : Value) : Option Table :=
  let place (parent : Table) : Option (Unit × Table) :=
    if parent.dotted == path.isEmpty then none
    else
      match parent.find? key with
      | none => some ((), parent.put key (.value value))
      | some _ => none
  (table.alter true place path).map Prod.snd

end Table

mutual

def Node.toValue : Node → Value
  | .value v => v
  | .table _ _ entries => .table (Node.entriesToValue entries)
  | .tables items => .array (Node.tablesToValue items)

def Node.entriesToValue : List (String × Node) → List (String × Value)
  | [] => []
  | (key, node) :: entries => (key, node.toValue) :: Node.entriesToValue entries

def Node.tablesToValue : List (List (String × Node)) → List Value
  | [] => []
  | entries :: items => .table (Node.entriesToValue entries) :: Node.tablesToValue items

end

def Table.toValue (table : Table) : Value := .table (Node.entriesToValue table.entries)

end GameClient.Toml
