import GameClient.Toml.Scalar
import GameClient.Toml.Table

/-!
# Reading configuration files

A TOML text is a list of lines: headers, which say which table the lines below belong to, and keys
with values. The table of a header is put in its place when the next header comes or the text ends.
-/

namespace GameClient.Toml

/-! ### Values -/

mutual

/-- A value. `room` is the number of brackets that may still be opened. -/
def readValue (room : Nat) (input : List Char) : Option (Value × List Char) :=
  match input with
  | '"' :: _ | '\x27' :: _ => (readString input).map fun (text, rest) => (.string text, rest)
  | '[' :: rest =>
    if room = 0 then none
    else
      match skipLines rest with
      | ']' :: rest => some (.array [], rest)
      | _ => (readItems (room - 1) rest).map fun (items, rest) => (.array items, rest)
  | '\x7b' :: rest =>
    if room = 0 then none
    else
      match skipBlanks rest with
      | '\x7d' :: rest => some (.table [], rest)
      | _ => (readPairs (room - 1) {} rest).map fun (table, rest) => (table.toValue, rest)
  | 't' :: _ | 'f' :: _ => readBoolean input
  | input => readNumber input
termination_by (input.length, 0)

/-- The items of an array up to its closing bracket, with at least one item. -/
def readItems (room : Nat) (input : List Char) : Option (List Value × List Char) :=
  let start := skipLines input
  if _h : start.length ≤ input.length then
    match readValue room start with
    | none => none
    | some (item, rest) =>
      match skipLines rest with
      | ']' :: rest => some ([item], rest)
      | ',' :: rest =>
        match skipLines rest with
        | ']' :: rest => some ([item], rest)
        | _ =>
          if rest.length < input.length then
            (readItems room rest).map fun (items, rest) => (item :: items, rest)
          else none
      | _ => none
  else none
termination_by (input.length, 1)
decreasing_by
  · exact (Nat.lt_or_eq_of_le (by assumption)).elim (Prod.Lex.left _ _) fun h =>
      h ▸ Prod.Lex.right _ (by omega)
  · exact Prod.Lex.left _ _ (by assumption)

/-- The keys and values of a table on one line up to its closing brace, with at least one. -/
def readPairs (room : Nat) (table : Table) (input : List Char) : Option (Table × List Char) :=
  match readKey input with
  | some ((path, key), '=' :: rest) =>
    let start := skipBlanks rest
    if _h : start.length < input.length then
      match readValue room start with
      | none => none
      | some (value, rest) =>
        match table.assign path key value, skipBlanks rest with
        | some table, '\x7d' :: rest => some (table, rest)
        | some table, ',' :: rest =>
          if rest.length < input.length then readPairs room table rest else none
        | _, _ => none
    else none
  | _ => none
termination_by (input.length, 1)
decreasing_by
  · exact Prod.Lex.left _ _ (by assumption)
  · exact Prod.Lex.left _ _ (by assumption)

end

/-! ### Lines -/

/-- What the lines so far have made: the whole, the table of the last header, and its place. -/
structure Document where
  root : Table := {}
  current : Table := {}
  path : List String := []
  /-- The last header stands in double brackets. -/
  inArray : Bool := false

namespace Document

def settle (document : Document) : Option Table :=
  match document.path.getLast? with
  | none => some document.current
  | some key =>
    let place (parent : Table) : Option (Unit × Table) :=
      match parent.find? key with
      | none =>
        if document.inArray then some ((), parent.put key (.tables [document.current.entries]))
        else some ((), parent.put key document.current.node)
      | some (.tables items) =>
        if document.inArray then
          some ((), parent.put key (.tables (items ++ [document.current.entries])))
        else none
      | some (.table true _ _) =>
        if document.inArray then none else some ((), parent.put key document.current.node)
      | some _ => none
    (document.root.alter false place document.path.dropLast).map Prod.snd

/-- Starts the table of a header. It takes over a table that deeper headers have passed through. -/
def open? (document : Document) (path : List String) (key : String) : Option Document := do
  let root ← document.settle
  let take (parent : Table) : Option (List (String × Node) × Table) :=
    match parent.find? key with
    | none => some ([], parent)
    | some (.table true false entries) => some (entries, parent.erase key)
    | some _ => none
  let (entries, root) ← root.alter false take path
  some { root, current := { entries }, path := path ++ [key] }

/-- Starts the next table of a header in double brackets. -/
def openItem? (document : Document) (path : List String) (key : String) : Option Document := do
  let root ← document.settle
  let take (parent : Table) : Option (Unit × Table) :=
    match parent.find? key with
    | none => some ((), parent)
    | some (.tables _) => some ((), parent)
    | some _ => none
  let (_, root) ← root.alter false take path
  some { root, path := path ++ [key], inArray := true }

def assign? (document : Document) (path : List String) (key : String) (value : Value) :
    Option Document :=
  (document.current.assign path key value).map fun current => { document with current }

/-- Reads a line, whose first character is neither blank nor an end of a line nor a comment. -/
def readLine (document : Document) (input : List Char) : Option (Document × List Char) :=
  match input with
  | '[' :: '[' :: rest =>
    match readKey rest with
    | some ((path, key), ']' :: ']' :: rest) => do
      let document ← document.openItem? path key
      let rest ← endLine? rest
      some (document, rest)
    | _ => none
  | '[' :: rest =>
    match readKey rest with
    | some ((path, key), ']' :: rest) => do
      let document ← document.open? path key
      let rest ← endLine? rest
      some (document, rest)
    | _ => none
  | input =>
    match readKey input with
    | some ((path, key), '=' :: rest) => do
      let (value, rest) ← readValue (depthLimit - 1) (skipBlanks rest)
      let document ← document.assign? path key value
      let rest ← endLine? rest
      some (document, rest)
    | _ => none

def readLines (document : Document) (input : List Char) : Option Document :=
  match skipBlanks input with
  | [] => some document
  | '#' :: comment =>
    match lineEnd? (comment.dropWhile isCommentChar) with
    | none => none
    | some rest => if rest.length < input.length then document.readLines rest else none
  | line =>
    match newline? line with
    | some rest => if rest.length < input.length then document.readLines rest else none
    | none =>
      match document.readLine line with
      | none => none
      | some (document, rest) =>
        if rest.length < input.length then document.readLines rest else none
termination_by input.length

end Document

def byteOrderMark : Char := '\ufeff'

def read? (text : String) : Option Value := do
  let input := match text.toList with
    | c :: rest => if c = byteOrderMark then rest else c :: rest
    | [] => []
  let document ← Document.readLines {} input
  let root ← document.settle
  some root.toValue

end GameClient.Toml
