import Pipework.Pattern.CharSet

/-!
# Normal forms of patterns

`Expr` is a pattern with its flags worked in. Its parts are put together by functions that keep it
small: characters in a row are one text, rows and choices hold no rows and choices of their own,
choices between single characters are sets, and what all branches of a choice begin with stands
before the choice.
-/

namespace Pipework.Pattern

open Unicode (RangeSet)

/-- Conditions on a position; the word conditions say whether words are of all scripts or ASCII. -/
inductive Look where
  | textStart
  | textEnd
  | lineStart
  | lineEnd
  | lineStartCrlf
  | lineEndCrlf
  | boundary (unicode : Bool)
  | notBoundary (unicode : Bool)
  | wordStart (unicode : Bool)
  | wordEnd (unicode : Bool)
  | wordStartHalf (unicode : Bool)
  | wordEndHalf (unicode : Bool)
  deriving DecidableEq, Repr

/-- Whether the condition is about words of all scripts. -/
def Look.isUnicodeWord : Look → Bool
  | .boundary u | .notBoundary u | .wordStart u | .wordEnd u | .wordStartHalf u | .wordEndHalf u => u
  | _ => false

inductive Expr where
  | empty
  | text (chars : List Char)
  | one (set : RangeSet)
  | look (condition : Look)
  | rep (item : Expr) (least : Nat) (most : Option Nat) (greedy : Bool)
  /-- A part in parentheses, which are numbered from the left. -/
  | group (number : Nat) (item : Expr)
  | seq (items : List Expr)
  | alt (branches : List Expr)

namespace Expr

mutual
/-- Whether two patterns are written alike. -/
def same : Expr → Expr → Bool
  | .empty, .empty => true
  | .text a, .text b => a == b
  | .one a, .one b => a == b
  | .look a, .look b => a == b
  | .rep a least most greedy, .rep b least' most' greedy' =>
    least == least' && most == most' && greedy == greedy' && a.same b
  | .group m a, .group n b => m == n && a.same b
  | .seq a, .seq b | .alt a, .alt b => sameAll a b
  | _, _ => false

def sameAll : List Expr → List Expr → Bool
  | [], [] => true
  | a :: as, b :: bs => a.same b && sameAll as bs
  | _, _ => false
end

mutual
/-- Whether every match is empty. -/
def isEmpty : Expr → Bool
  | .empty | .look _ => true
  | .text _ | .one _ => false
  | .rep item _ most _ => item.isEmpty && most.isSome
  | .group _ item => item.isEmpty
  | .seq items | .alt items => allEmpty items

def allEmpty : List Expr → Bool
  | [] => true
  | item :: rest => item.isEmpty && allEmpty rest
end

/-! ## Putting parts together -/

def ofSet (s : RangeSet) : Expr :=
  match s.toList with
  | [(n, m)] => if n = m then .text [Char.ofNat n] else .one s
  | _ => .one s

/-- Repeating what is always empty more than once changes nothing. -/
def repeated (item : Expr) (least : Nat) (most : Option Nat) (greedy : Bool) : Expr :=
  let (least, most) :=
    if item.isEmpty then (min least 1, some (min (most.getD 1) 1)) else (least, most)
  if least = 0 ∧ most = some 0 then .empty
  else if least = 1 ∧ most = some 1 then item
  else .rep item least most greedy

/-- The parts that stand in a row. -/
def items : Expr → List Expr
  | .empty => []
  | .seq items => items
  | e => [e]

/-- Puts a part before a row. -/
def glue : Expr → List Expr → List Expr
  | .text a, .text b :: rest => .text (a ++ b) :: rest
  | e, rest => e :: rest

def concat (parts : List Expr) : Expr :=
  match (parts.flatMap items).foldr glue [] with
  | [] => .empty
  | [e] => e
  | es => .seq es

def branches : Expr → List Expr
  | .alt branches => branches
  | e => [e]

def letter? : Expr → Option Char
  | .text [c] => some c
  | _ => none

def set? : Expr → Option RangeSet
  | .one s => some s
  | _ => none

/-- A choice between branches that do not all begin alike. -/
def choice (parts : List Expr) : Expr :=
  match parts.flatMap branches with
  | [] => .one ∅
  | [e] => e
  | es =>
    match es.mapM letter?, es.mapM set? with
    | some cs, _ => ofSet (.ofChars cs)
    | none, some sets => ofSet (sets.foldl (· ∪ ·) ∅)
    | none, none => .alt es

/-- What two rows begin with alike. -/
def commonStart : List Expr → List Expr → List Expr
  | a :: as, b :: bs => if a.same b then a :: commonStart as bs else []
  | _, _ => []

/-- The rows of branches that are all rows. -/
def rows? (branches : List Expr) : Option (List (List Expr)) :=
  branches.mapM fun
    | .seq items => some items
    | _ => none

/-- What all branches begin with stands before the choice. -/
def alternation (parts : List Expr) : Expr :=
  match rows? (parts.flatMap branches) with
  | some (first :: second :: others) =>
    match (second :: others).foldl commonStart first with
    | [] => choice parts
    | start =>
      let ends := (first :: second :: others).map fun row => concat (row.drop start.length)
      concat (start ++ [choice ends])
  | _ => choice parts

/-! ## Looking at words -/

mutual
/-- Whether some condition is about words of all scripts. -/
def looksAtUnicodeWords : Expr → Bool
  | .empty | .text _ | .one _ => false
  | .look condition => condition.isUnicodeWord
  | .rep item _ _ _ | .group _ item => item.looksAtUnicodeWords
  | .seq items | .alt items => anyLooksAtUnicodeWords items

def anyLooksAtUnicodeWords : List Expr → Bool
  | [] => false
  | item :: rest => item.looksAtUnicodeWords || anyLooksAtUnicodeWords rest
end

end Expr

end Pipework.Pattern
