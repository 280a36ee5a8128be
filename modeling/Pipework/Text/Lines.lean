/-!
# Lines

A line ends with a newline, and one carriage return before that newline belongs to the ending.
What follows the last newline is a line too unless it is empty; a carriage return at its end is
part of it. The same rule serves bytes and characters.
-/

namespace Pipework.Lines

variable {α : Type} [BEq α]

/-- A piece that was ended by a newline, less one carriage return at its end. -/
def dropReturn (cr : α) (piece : List α) : List α :=
  if piece.getLast? == some cr then piece.dropLast else piece

/-- Lines of a sequence whose newline is `nl` and whose carriage return is `cr`. -/
def split (nl cr : α) (s : List α) : List (List α) :=
  let pieces := s.splitOn nl
  let last := pieces.getLastD []
  pieces.dropLast.map (dropReturn cr) ++ (if last.isEmpty then [] else [last])

def ofText (s : String) : List (List Char) := split '\n' '\r' s.toList

end Pipework.Lines
