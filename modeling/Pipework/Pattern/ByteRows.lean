import Pipework.Unicode.RangeSet

/-!
# Sets of characters as rows of bytes

The UTF-8 forms of a range of characters are covered by rows of byte ranges: a form belongs to a
row when each of its bytes lies in the range at its place. The rows of a set are disjoint and stand
in the order of the characters.
-/

namespace Pipework.Pattern

open Unicode (RangeSet)

structure ByteRange where
  first : UInt8
  last : UInt8
  deriving DecidableEq, Repr

/-- Ranges for the bytes of a form, from its first byte on. -/
abbrev ByteRow := List ByteRange

namespace ByteRow

/-- The last characters whose forms have one, two and three bytes. -/
def lengthBounds : List Nat := [0x7F, 0x7FF, 0xFFFF]

/-- Cuts a range behind each bound, so that the forms of a piece are of one length. -/
def cutAtLengths (first last : Nat) : List Nat → List (Nat × Nat)
  | [] => [(first, last)]
  | bound :: bounds =>
    if first ≤ bound ∧ bound < last then
      (first, bound) :: cutAtLengths (bound + 1) last bounds
    else cutAtLengths first last bounds

/-- How many characters share all bytes but the last one, the last two and the last three. -/
def blockSizes : List Nat := [64, 4096, 262144]

/-- Cuts a range so that the forms of a piece are all the combinations of its bytes: a piece lies in
one block, or consists of whole ones. -/
def cutAtBlocks (first last : Nat) : List Nat → List (Nat × Nat)
  | [] => [(first, last)]
  | size :: sizes =>
    if first / size = last / size then [(first, last)]
    else
      let start := (first + size - 1) / size * size
      let stop := (last + 1) / size * size
      (if first < start then [(first, start - 1)] else []) ++
        (if start < stop then cutAtBlocks start (stop - 1) sizes else []) ++
        (if stop ≤ last then [(stop, last)] else [])

def encoded (n : Nat) : List UInt8 := String.utf8EncodeChar (Char.ofNat n)

def ofPiece (piece : Nat × Nat) : ByteRow :=
  List.zipWith ByteRange.mk (encoded piece.1) (encoded piece.2)

def ofRange (range : Nat × Nat) : List ByteRow :=
  (cutAtLengths range.1 range.2 lengthBounds).flatMap fun (first, last) =>
    (cutAtBlocks first last blockSizes).map ofPiece

def ofSet (s : RangeSet) : List ByteRow := s.toList.flatMap ofRange

end ByteRow

end Pipework.Pattern
