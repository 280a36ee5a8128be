/-!
# Sets and labellings of code points

A set of characters is a list of ranges of code points in ascending order. The operations keep the
ranges apart from each other, so that equal sets have equal ranges. Data about all characters is
written as runs: lengths of stretches that alternate or carry a label.
-/

namespace Pipework.Unicode

def decimal (digits : List Char) : Nat := digits.foldl (fun n c => n * 10 + (c.toNat - 48)) 0

/-- Runs are written on several lines and separated by single spaces. -/
def entries (runs : List String) : List (List Char) :=
  runs.flatMap fun line => line.toList.splitOn ' '

/-- The last code point. -/
def lastCode : Nat := 0x10FFFF

/-- Code points that are no characters. -/
def surrogates : Nat × Nat := (0xD800, 0xDFFF)

/-- Ranges of code points, first and last included, in ascending order, with gaps between them. -/
structure RangeSet where
  ranges : Array (Nat × Nat)
  deriving DecidableEq, Repr

namespace RangeSet

/-! ## Sets from ranges -/

/-- Joins ranges that overlap or adjoin; they come by their first code points. -/
def joinOnto (first last : Nat) : List (Nat × Nat) → List (Nat × Nat)
  | [] => [(first, last)]
  | (f, l) :: rest =>
    if f ≤ last + 1 then joinOnto first (max last l) rest else (first, last) :: joinOnto f l rest

def join : List (Nat × Nat) → List (Nat × Nat)
  | [] => []
  | (first, last) :: rest => joinOnto first last rest

def startsBefore (a b : Nat × Nat) : Bool := a.1 ≤ b.1

def ofPairs (pairs : List (Nat × Nat)) : RangeSet :=
  ⟨(join (pairs.mergeSort startsBefore)).toArray⟩

def ofCodes (codes : List Nat) : RangeSet := ofPairs (codes.map fun n => (n, n))

def ofChars (cs : List Char) : RangeSet := ofCodes (cs.map Char.toNat)

/-- The characters from one to another; the surrogates between them are left out. -/
def range (first last : Char) : RangeSet :=
  if last < first then ⟨#[]⟩
  else if first.toNat < surrogates.1 ∧ surrogates.2 < last.toNat then
    ⟨#[(first.toNat, surrogates.1 - 1), (surrogates.2 + 1, last.toNat)]⟩
  else ⟨#[(first.toNat, last.toNat)]⟩

def single (c : Char) : RangeSet := range c c

def empty : RangeSet := ⟨#[]⟩

def isEmpty (s : RangeSet) : Bool := s.ranges.isEmpty

def toList (s : RangeSet) : List (Nat × Nat) := s.ranges.toList

def unfold (position : Nat) : List Nat → List (Nat × Nat)
  | gap :: length :: rest =>
    (position + gap, position + gap + length - 1) :: unfold (position + gap + length) rest
  | _ => []

/-- Lengths of gaps and ranges in turn. -/
def ofRuns (runs : List String) : RangeSet :=
  ⟨(unfold 0 ((entries runs).map decimal)).toArray⟩

/-! ## Members -/

/-- Whether a range between two places of the array holds the code point. -/
def search (ranges : Array (Nat × Nat)) (n low high : Nat) : Bool :=
  if low < high then
    let middle := (low + high) / 2
    let (first, last) := ranges.getD middle (0, 0)
    if n < first then search ranges n low middle
    else if n ≤ last then true
    else search ranges n (middle + 1) high
  else false
termination_by high - low
decreasing_by all_goals omega

def containsCode (s : RangeSet) (n : Nat) : Bool := search s.ranges n 0 s.ranges.size

def contains (s : RangeSet) (c : Char) : Bool := s.containsCode c.toNat

/-! ## Operations -/

def union (a b : RangeSet) : RangeSet :=
  ⟨(join (a.toList.merge b.toList startsBefore)).toArray⟩

/-- What lies between ranges, from a position on. -/
def gaps (position : Nat) : List (Nat × Nat) → List (Nat × Nat)
  | [] => if position ≤ lastCode then [(position, lastCode)] else []
  | (first, last) :: rest =>
    if position < first then (position, first - 1) :: gaps (last + 1) rest
    else gaps (last + 1) rest

/-- All characters that are not in the set. -/
def complement (s : RangeSet) : RangeSet :=
  ⟨(gaps 0 (join (s.toList.merge [surrogates] startsBefore))).toArray⟩

def inter (a b : RangeSet) : RangeSet := (a.complement.union b.complement).complement

def diff (a b : RangeSet) : RangeSet := a.inter b.complement

def all : RangeSet := empty.complement

instance : EmptyCollection RangeSet := ⟨empty⟩

instance : Union RangeSet := ⟨union⟩

instance : Inter RangeSet := ⟨inter⟩

instance : SDiff RangeSet := ⟨diff⟩

end RangeSet

/-- Where each labelled stretch begins, in ascending order. -/
structure LabelRuns where
  starts : List (Nat × String)

namespace LabelRuns

def unfold (position : Nat) : List (Nat × String) → List (Nat × String)
  | (length, label) :: rest => (position, label) :: unfold (position + length) rest
  | [] => []

def ofRuns (runs : List String) : LabelRuns :=
  ⟨unfold 0 ((entries runs).map fun entry =>
    (decimal (entry.takeWhile Char.isDigit), String.ofList (entry.dropWhile Char.isDigit)))⟩

def selectFrom (wanted : String → Bool) : List (Nat × String) → List (Nat × Nat)
  | [] => []
  | [(start, label)] => if wanted label then [(start, lastCode)] else []
  | (start, label) :: (next, other) :: rest =>
    let more := selectFrom wanted ((next, other) :: rest)
    if wanted label then (start, next - 1) :: more else more

/-- The characters whose stretch has a wanted label. -/
def select (r : LabelRuns) (wanted : String → Bool) : RangeSet :=
  ⟨(RangeSet.join (selectFrom wanted r.starts)).toArray⟩ \ ⟨#[surrogates]⟩

end LabelRuns

end Pipework.Unicode
