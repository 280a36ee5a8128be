/-!
# Backlogs

A backlog keeps the output of a stage while the stage that will read it does not exist yet. Pieces
are kept last first and joined when they are taken.
-/

namespace Pipework

structure Backlog where
  pieces : List (List UInt8)

namespace Backlog

def empty : Backlog := ⟨[]⟩

def toList (b : Backlog) : List UInt8 := b.pieces.reverse.flatten

def size (b : Backlog) : Nat := b.pieces.foldr (fun piece n => piece.length + n) 0

def isEmpty (b : Backlog) : Bool := b.size == 0

def append (b : Backlog) (data : List UInt8) : Backlog := ⟨data :: b.pieces⟩

/-- All bytes, or nothing when there are none; the backlog is empty afterwards. -/
def take (b : Backlog) : Option (List UInt8) × Backlog :=
  (if b.isEmpty then none else some b.toList, empty)

end Backlog

end Pipework
