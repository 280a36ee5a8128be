import Pipework.Pattern.Expr

/-!
# What patterns match

`Expr.reach` takes a set of positions of a line to the set of positions that a match from one of
them can end at; a line matches when some position can be reached from any position at all.
-/

namespace Pipework.Pattern

open Unicode (RangeSet)

/-- A position of a line: the character before it and the characters behind it. -/
structure Position where
  before : Option Char
  rest : List Char
  /-- The number of characters behind it. -/
  left : Nat

namespace Position

def start (line : List Char) : Position := ⟨none, line, line.length⟩

def next? (p : Position) : Option (Char × Position) :=
  match p.rest with
  | [] => none
  | c :: rest => some (c, ⟨some c, rest, p.left - 1⟩)

/-- The position behind one character of a set. -/
def step? (set : RangeSet) (p : Position) : Option Position :=
  match p.next? with
  | some (c, q) => if set.contains c then some q else none
  | none => none

/-- The position behind a text. -/
def past? : List Char → Position → Option Position
  | [], p => some p
  | c :: cs, p =>
    match p.next? with
    | some (d, q) => if c = d then past? cs q else none
    | none => none

def allFrom (before : Option Char) (left : Nat) : List Char → List Position
  | [] => [⟨before, [], left⟩]
  | c :: rest => ⟨before, c :: rest, left⟩ :: allFrom (some c) (left - 1) rest

/-- Every position of a line, from its start to its end. -/
def all (line : List Char) : List Position := allFrom none line.length line

end Position

namespace Look

def wordSet (unicode : Bool) : RangeSet :=
  if unicode then Unicode.Property.word else CharSet.asciiWord

def isWord (unicode : Bool) (c : Option Char) : Bool := c.any (wordSet unicode).contains

def holds (p : Position) : Look → Bool
  | .textStart => p.before.isNone
  | .textEnd => p.rest.isEmpty
  | .lineStart => p.before.all (· == '\n')
  | .lineEnd => p.rest.head?.all (· == '\n')
  | .lineStartCrlf =>
    match p.before with
    | none => true
    | some '\n' => true
    | some '\r' => p.rest.head? != some '\n'
    | some _ => false
  | .lineEndCrlf =>
    match p.rest.head? with
    | none => true
    | some '\r' => true
    | some '\n' => p.before != some '\r'
    | some _ => false
  | .boundary u => isWord u p.before != isWord u p.rest.head?
  | .notBoundary u => isWord u p.before == isWord u p.rest.head?
  | .wordStart u => !isWord u p.before && isWord u p.rest.head?
  | .wordEnd u => isWord u p.before && !isWord u p.rest.head?
  | .wordStartHalf u => !isWord u p.before
  | .wordEndHalf u => !isWord u p.rest.head?

end Look

/-! ## Sets of positions -/

/-- Sets of positions are lists without repetition, from the left of the line to the right. -/
abbrev Positions := List Position

namespace Positions

/-- The union, with the members of both taken once. -/
def mergeOnto (done : Positions) : Positions → Positions → Positions
  | [], b => done.reverse ++ b
  | a, [] => done.reverse ++ a
  | p :: a, q :: b =>
    if q.left < p.left then mergeOnto (p :: done) a (q :: b)
    else if p.left < q.left then mergeOnto (q :: done) (p :: a) b
    else mergeOnto (p :: done) a b
termination_by a b => a.length + b.length

def merge (a b : Positions) : Positions := mergeOnto [] a b

/-- Members of the first that are not in the second. -/
def minusOnto (done : Positions) : Positions → Positions → Positions
  | [], _ => done.reverse
  | a, [] => done.reverse ++ a
  | p :: a, q :: b =>
    if q.left < p.left then minusOnto (p :: done) a (q :: b)
    else if p.left < q.left then minusOnto done (p :: a) b
    else minusOnto done a b
termination_by a b => a.length + b.length

def minus (a b : Positions) : Positions := minusOnto [] a b

/-- `count` applications of a step; an empty set stays empty. -/
def times (step : Positions → Positions) : Nat → Positions → Positions
  | 0, s => s
  | count + 1, s => if s.isEmpty then s else times step count (step s)

/-- What up to `rounds` applications of a step reach. Only new positions are carried on. -/
def within (step : Positions → Positions) : Nat → Positions → Positions → Positions
  | 0, reached, _ => reached
  | rounds + 1, reached, fresh =>
    let fresh := minus (step fresh) reached
    if fresh.isEmpty then reached else within step rounds (merge reached fresh) fresh

/-- As many rounds as a set of positions can need to be closed under a step. -/
def enough (s : Positions) : Nat :=
  match s with
  | [] => 0
  | p :: _ => p.left + 1

end Positions

namespace Expr

mutual
def reach : Expr → Positions → Positions
  | .empty, s => s
  | .text cs, s => s.filterMap (Position.past? cs)
  | .one set, s => s.filterMap (Position.step? set)
  | .look condition, s => s.filter (condition.holds ·)
  | .rep item least most _, s =>
    let s := Positions.times item.reach least s
    let rounds := match most with
      | some m => min (m - least) (Positions.enough s)
      | none => Positions.enough s
    Positions.within item.reach rounds s s
  | .group _ item, s => item.reach s
  | .seq items, s => reachAll items s
  | .alt branches, s => reachAny branches s

/-- Where the items can end that follow each other. -/
def reachAll : List Expr → Positions → Positions
  | [], s => s
  | item :: rest, s => reachAll rest (item.reach s)

/-- Where one of the branches can end. -/
def reachAny : List Expr → Positions → Positions
  | [], _ => []
  | branch :: rest, s => Positions.merge (branch.reach s) (reachAny rest s)
end

def isMatch (e : Expr) (line : List Char) : Bool := !(e.reach (Position.all line)).isEmpty

end Expr

end Pipework.Pattern
