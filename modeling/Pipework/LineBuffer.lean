import Pipework.Text.Lines
import Pipework.Text.Utf8

/-!
# Line buffers

A line buffer puts raw pieces of input together again and yields them line by line. It asks for
input only while it holds no complete line, and an empty piece is the end of input for good.
Decoding happens after a line is complete, so the cuts between pieces never show.
-/

namespace Pipework

structure LineBuffer where
  held : Bytes
  ended : Bool
  deriving DecidableEq, Repr

namespace LineBuffer

def newline : UInt8 := 10

def carriageReturn : UInt8 := 13

def empty : LineBuffer := ⟨[], false⟩

/-- The bytes before and after the first newline. -/
def cut? (bs : Bytes) : Option (Bytes × Bytes) :=
  match bs.dropWhile (· != newline) with
  | [] => none
  | _ :: rest => some (bs.takeWhile (· != newline), rest)

inductive Poll where
  | line (text : String) (after : LineBuffer)
  | finished
  | starved
  deriving DecidableEq, Repr

def poll (b : LineBuffer) : Poll :=
  match cut? b.held with
  | some (line, rest) =>
    .line (Utf8.decodeLossy (Lines.dropReturn carriageReturn line)) { b with held := rest }
  | none =>
    if !b.ended then .starved
    else if b.held.isEmpty then .finished
    else .line (Utf8.decodeLossy b.held) { b with held := [] }

def feed (b : LineBuffer) (piece : Bytes) : LineBuffer :=
  if piece.isEmpty then { b with ended := true } else { b with held := b.held ++ piece }

/-- How many bytes a buffer asks for at a time. -/
def pieceLimit : Nat := 4096

end LineBuffer

end Pipework
