/-!
# Blank characters

The characters with the property White_Space, and what is cut at them: trimming both ends of a
text, splitting once, and splitting into fields.
-/

namespace Pipework.Blank

def isBlank (c : Char) : Bool :=
  let n := c.toNat
  (9 ≤ n ∧ n ≤ 13) || n == 0x20 || n == 0x85 || n == 0xA0 || n == 0x1680 ||
    (0x2000 ≤ n ∧ n ≤ 0x200A) || n == 0x2028 || n == 0x2029 || n == 0x202F || n == 0x205F ||
    n == 0x3000

def trimStart (cs : List Char) : List Char := cs.dropWhile isBlank

def trimEnd (cs : List Char) : List Char := (cs.reverse.dropWhile isBlank).reverse

def trim (s : String) : String := String.ofList (trimEnd (trimStart s.toList))

/-- The text before and after the first blank, `none` when there is none. -/
def splitOnce? (cs : List Char) : Option (List Char × List Char) :=
  match cs.dropWhile (!isBlank ·) with
  | [] => none
  | _ :: rest => some (cs.takeWhile (!isBlank ·), rest)

/-- The maximal blank-free pieces. -/
def fields (s : String) : List (List Char) :=
  (s.toList.splitOnP isBlank).filter (!·.isEmpty)

end Pipework.Blank
