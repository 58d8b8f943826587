import GameClient.Chat.Message

/-!
# The chat feed

The backend hands over the whole chat each time. The feed shows its last messages, each number once,
and what a scrolling view needs: where the end is, and how many messages are new. A snapshot that
has the digest of the one before is passed over.
-/

namespace GameClient.Chat

structure View where
  entries : List Message := []
  /-- The number of the last message. -/
  scrollAnchor : Option UInt64 := none
  /-- How many entries came after the last one of the view before. -/
  newSinceLast : Nat := 0
  deriving DecidableEq, Repr

/-- A feed that remembers snapshots by digests of type `δ`. -/
structure Feed (δ : Type) where
  view : View := {}
  /-- The largest number of entries, at least one. -/
  scrollback : Nat
  lastDigest : Option δ := none

/-- The messages whose numbers are not in `seen`, each number once, where it comes first. -/
def firstOfEach (seen : List UInt64) : List Message → List Message
  | [] => []
  | message :: rest =>
    if message.sequence ∈ seen then firstOfEach seen rest
    else message :: firstOfEach (message.sequence :: seen) rest

def lastOf {α : Type} (n : Nat) (xs : List α) : List α := xs.drop (xs.length - n)

def lastSequence? (messages : List Message) : Option UInt64 :=
  messages.getLast?.map Message.sequence

/-- A message comes after the number `high`; without one, every message does. -/
def isNew (high : Option UInt64) (message : Message) : Bool :=
  match high with
  | none => true
  | some high => high < message.sequence

namespace Feed

variable {δ : Type}

/-- A feed that has seen nothing and shows at most `scrollback` messages, and at least one. -/
def new (scrollback : Nat) : Feed δ := { scrollback := max scrollback 1 }

def defaultScrollback : Nat := 500

def entriesOf (feed : Feed δ) (snapshot : List Message) : List Message :=
  lastOf feed.scrollback (firstOfEach [] snapshot)

def viewOf (feed : Feed δ) (snapshot : List Message) : View :=
  let entries := feed.entriesOf snapshot
  -- New is what comes after the last entry that was shown, which need not have been the highest.
  { entries
    scrollAnchor := lastSequence? entries
    newSinceLast := entries.countP (isNew (lastSequence? feed.view.entries)) }

/-- Takes over a snapshot, unless its digest is that of the one before; says whether it did. -/
def applySnapshot [DecidableEq δ] (digest : List Message → δ) (feed : Feed δ)
    (snapshot : List Message) : Feed δ × Bool :=
  if feed.lastDigest = some (digest snapshot) then (feed, false)
  else ({ feed with view := feed.viewOf snapshot, lastDigest := some (digest snapshot) }, true)

end Feed

end GameClient.Chat
