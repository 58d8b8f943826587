import GameClient.Text.Numeral

/-!
# Blanks, texts and keys

The smallest parts of a TOML text. A reader returns what it read and the rest of the text.
-/

namespace GameClient.Toml

open Text (hexValue?)

/-! ### Blanks, comments and the ends of lines -/

/-- A blank within a line. -/
def isBlank (c : Char) : Bool := c == ' ' || c == '\t'

def skipBlanks (input : List Char) : List Char := input.dropWhile isBlank

/-- A character that is neither a control character nor a quote mark of either kind nor a
backslash, or is a tab. -/
def isPlain (c : Char) : Bool :=
  c == '\t' || (c.toNat ≥ 0x20 && c.toNat ≠ 0x7F && c ≠ '"' && c ≠ '\x27' && c ≠ '\\')

def isCommentChar (c : Char) : Bool := isPlain c || c == '"' || c == '\x27' || c == '\\'

def skipComment : List Char → List Char
  | '#' :: rest => rest.dropWhile isCommentChar
  | input => input

def newline? : List Char → Option (List Char)
  | '\n' :: rest => some rest
  | '\r' :: '\n' :: rest => some rest
  | _ => none

/-- What follows the end of a line or of the whole text. -/
def lineEnd? : List Char → Option (List Char)
  | [] => some []
  | input => newline? input

/-- What follows the line, if nothing but blanks and a comment is left of it. -/
def endLine? (input : List Char) : Option (List Char) := lineEnd? (skipComment (skipBlanks input))

/-- A text without the blanks, the ends of lines and the comments in front. -/
def skipLines (input : List Char) : List Char :=
  match input with
  | [] => []
  | '#' :: rest => skipLines (rest.dropWhile isCommentChar)
  | '\r' :: '\n' :: rest => skipLines rest
  | c :: rest => if isBlank c || c == '\n' then skipLines rest else c :: rest
termination_by input.length
decreasing_by
  all_goals simp only [List.length_cons]
  · have := (List.dropWhile_suffix isCommentChar (l := rest)).length_le
    omega
  · omega
  · omega

/-! ### Texts -/

def hexNumber? (digits : List Char) : Option Nat :=
  digits.foldlM (fun n c => (hexValue? c).map fun d => 16 * n + d) 0

def charOf? (code : Nat) : Option Char := if code.isValidChar then some (Char.ofNat code) else none

/-- The character that a letter behind a backslash stands for. -/
def escaped? : Char → Option Char
  | 'b' => some '\x08'
  | 'f' => some '\x0c'
  | 'n' => some '\n'
  | 'r' => some '\r'
  | 't' => some '\t'
  | '"' => some '"'
  | '\\' => some '\\'
  | _ => none

def prepend (c : Char) (read : List Char × List Char) : List Char × List Char :=
  (c :: read.1, read.2)

def readBasic : List Char → Option (List Char × List Char)
  | '"' :: rest => some ([], rest)
  | '\\' :: 'u' :: a :: b :: c :: d :: rest => do
    let char ← charOf? (← hexNumber? [a, b, c, d])
    (readBasic rest).map (prepend char)
  | '\\' :: 'U' :: a :: b :: c :: d :: e :: f :: g :: h :: rest => do
    let char ← charOf? (← hexNumber? [a, b, c, d, e, f, g, h])
    (readBasic rest).map (prepend char)
  | '\\' :: c :: rest => do
    let char ← escaped? c
    (readBasic rest).map (prepend char)
  | c :: rest => if isPlain c || c == '\x27' then (readBasic rest).map (prepend c) else none
  | [] => none

def readLiteral : List Char → Option (List Char × List Char)
  | '\x27' :: rest => some ([], rest)
  | c :: rest =>
    if isPlain c || c == '"' || c == '\\' then (readLiteral rest).map (prepend c) else none
  | [] => none

/-- Only blanks stand before the end of the line. -/
def endsLine (input : List Char) : Bool := (newline? (skipBlanks input)).isSome

/-- The characters up to the three closing quotes; up to two quotes in front of them belong to the
text. A backslash at the end of a line swallows the white space up to the next other character:
`swallow` says that this is going on. -/
def readLongBasic (swallow : Bool) : List Char → Option (List Char × List Char)
  | '"' :: '"' :: '"' :: '"' :: '"' :: rest => some (['"', '"'], rest)
  | '"' :: '"' :: '"' :: '"' :: rest => some (['"'], rest)
  | '"' :: '"' :: '"' :: rest => some ([], rest)
  | '\r' :: '\n' :: rest =>
    if swallow then readLongBasic true rest else (readLongBasic false rest).map (prepend '\n')
  | '\n' :: rest =>
    if swallow then readLongBasic true rest else (readLongBasic false rest).map (prepend '\n')
  | '\\' :: 'u' :: a :: b :: c :: d :: rest => do
    let char ← charOf? (← hexNumber? [a, b, c, d])
    (readLongBasic false rest).map (prepend char)
  | '\\' :: 'U' :: a :: b :: c :: d :: e :: f :: g :: h :: rest => do
    let char ← charOf? (← hexNumber? [a, b, c, d, e, f, g, h])
    (readLongBasic false rest).map (prepend char)
  | '\\' :: c :: rest =>
    if endsLine (c :: rest) then readLongBasic true (c :: rest)
    else do
      let char ← escaped? c
      (readLongBasic false rest).map (prepend char)
  | c :: rest =>
    if swallow && isBlank c then readLongBasic true rest
    else if isPlain c || c == '\x27' || c == '"' then (readLongBasic false rest).map (prepend c)
    else none
  | [] => none

/-- The characters up to the three closing apostrophes; up to two in front of them belong to the
text. -/
def readLongLiteral : List Char → Option (List Char × List Char)
  | '\x27' :: '\x27' :: '\x27' :: '\x27' :: '\x27' :: rest => some (['\x27', '\x27'], rest)
  | '\x27' :: '\x27' :: '\x27' :: '\x27' :: rest => some (['\x27'], rest)
  | '\x27' :: '\x27' :: '\x27' :: rest => some ([], rest)
  | '\r' :: '\n' :: rest => (readLongLiteral rest).map (prepend '\n')
  | '\n' :: rest => (readLongLiteral rest).map (prepend '\n')
  | c :: rest =>
    if isPlain c || c == '"' || c == '\\' || c == '\x27' then (readLongLiteral rest).map (prepend c)
    else none
  | [] => none

def skipNewline (input : List Char) : List Char := (newline? input).getD input

/-- The text whose opening quotes stand in front. -/
def readString (input : List Char) : Option (String × List Char) :=
  let read : Option (List Char × List Char) :=
    match input with
    | '"' :: '"' :: '"' :: rest => readLongBasic false (skipNewline rest)
    | '"' :: rest => readBasic rest
    | '\x27' :: '\x27' :: '\x27' :: rest => readLongLiteral (skipNewline rest)
    | '\x27' :: rest => readLiteral rest
    | _ => none
  read.map fun (chars, rest) => (String.ofList chars, rest)

/-! ### Keys -/

/-- A character of a key that stands without quotes. -/
def isKeyChar (c : Char) : Bool :=
  ('a' ≤ c && c ≤ 'z') || ('A' ≤ c && c ≤ 'Z') || ('0' ≤ c && c ≤ '9') || c == '-' || c == '_'

def readKeyPart (input : List Char) : Option (String × List Char) :=
  match input with
  | '"' :: rest => (readBasic rest).map fun (chars, rest) => (String.ofList chars, rest)
  | '\x27' :: rest => (readLiteral rest).map fun (chars, rest) => (String.ofList chars, rest)
  | input =>
    match input.takeWhile isKeyChar with
    | [] => none
    | chars => some (String.ofList chars, input.dropWhile isKeyChar)

/-- The parts of a key with dots between them, and blanks around each. -/
def readKeyParts (input : List Char) : Option (List String × List Char) :=
  match readKeyPart (skipBlanks input) with
  | none => none
  | some (part, rest) =>
    match skipBlanks rest with
    | '.' :: more =>
      if more.length < input.length then
        (readKeyParts more).map fun (parts, rest) => (part :: parts, rest)
      else none
    | rest => some ([part], rest)
termination_by input.length

/-- The number of parts that a key stays below, and of brackets that may be open at once. -/
def depthLimit : Nat := 80

/-- A key: the path to the table, and the last part. -/
def readKey (input : List Char) : Option ((List String × String) × List Char) :=
  match readKeyParts input with
  | none => none
  | some (parts, rest) =>
    match parts.getLast? with
    | none => none
    | some last =>
      if parts.length < depthLimit then some ((parts.dropLast, last), rest) else none

end GameClient.Toml
