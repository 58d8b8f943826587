import GameClient.Chat.Message

/-!
# Digests of chat snapshots

A snapshot of the chat is told from the one before by its length and a 64-bit hash of its bytes. The
bytes leave no doubt where a field ends: numbers have eight bytes, the lowest first, and a text ends
with a byte that UTF-8 never uses. The hash is SipHash with one round for each word of input and
three at the end, under the zero key.
-/

namespace GameClient.Chat

/-- The state of SipHash: four words. -/
structure SipState where
  v0 : UInt64
  v1 : UInt64
  v2 : UInt64
  v3 : UInt64

namespace SipState

/-- Turns a word to the left by `n` bits, 0 < n < 64. -/
def rotate (x n : UInt64) : UInt64 := (x <<< n) ||| (x >>> (64 - n))

/-- The state under the zero key. -/
def start : SipState :=
  ⟨0x736f6d6570736575, 0x646f72616e646f6d, 0x6c7967656e657261, 0x7465646279746573⟩

def round (s : SipState) : SipState :=
  let a0 := s.v0 + s.v1
  let a1 := rotate s.v1 13 ^^^ a0
  let a2 := s.v2 + s.v3
  let a3 := rotate s.v3 16 ^^^ a2
  let b0 := rotate a0 32 + a3
  let b2 := a2 + a1
  ⟨b0, rotate a1 17 ^^^ b2, rotate b2 32, rotate a3 21 ^^^ b0⟩

def absorb (s : SipState) (word : UInt64) : SipState :=
  let t := { s with v3 := s.v3 ^^^ word }.round
  { t with v0 := t.v0 ^^^ word }

def finish (s : SipState) : UInt64 :=
  let t := { s with v2 := s.v2 ^^^ 0xff }.round.round.round
  t.v0 ^^^ t.v1 ^^^ t.v2 ^^^ t.v3

end SipState

/-- The word of at most eight bytes, the lowest first. -/
def wordOfBytes : List UInt8 → UInt64
  | [] => 0
  | b :: rest => b.toUInt64 ||| (wordOfBytes rest <<< 8)

/-- The eight bytes of a word, the lowest first. -/
def bytesOfWord (word : UInt64) : List UInt8 :=
  (List.range 8).map fun i => (word >>> (8 * UInt64.ofNat i)).toUInt8

/-- Takes in the bytes behind `s`, of `length` in all; the last word ends in the length. -/
def absorbBytes (length : Nat) (s : SipState) : List UInt8 → SipState
  | b0 :: b1 :: b2 :: b3 :: b4 :: b5 :: b6 :: b7 :: rest =>
    absorbBytes length (s.absorb (wordOfBytes [b0, b1, b2, b3, b4, b5, b6, b7])) rest
  | tail => s.absorb (wordOfBytes tail ||| (UInt64.ofNat length <<< 56))

def sipHash (bytes : List UInt8) : UInt64 :=
  (absorbBytes bytes.length SipState.start bytes).finish

/-- The bytes of a text, and the byte that ends it. -/
def textBytes (text : String) : List UInt8 := text.toUTF8.toList ++ [0xff]

def Message.bytes (message : Message) : List UInt8 :=
  bytesOfWord message.sequence ++ textBytes message.author ++ textBytes message.text

def snapshotBytes (snapshot : List Message) : List UInt8 :=
  bytesOfWord (UInt64.ofNat snapshot.length) ++ snapshot.flatMap Message.bytes

/-- What is remembered of a snapshot. -/
structure Digest where
  length : Nat
  hash : UInt64
  deriving DecidableEq, Repr

def Digest.ofSnapshot (snapshot : List Message) : Digest :=
  ⟨snapshot.length, sipHash (snapshotBytes snapshot)⟩

end GameClient.Chat
