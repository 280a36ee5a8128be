import Pipework.Pattern.ByteRows
import Pipework.Pattern.Expr

/-!
# The size of patterns

A pattern stands for a machine that reads bytes. What counts here is how large the machine is, not
how it runs: patterns whose machine exceeds a limit, read forwards or backwards, are refused.

A machine is built part by part, and its states are numbered as they come. States with the same
edges are shared within a set of characters as far as a table of limited size remembers them.
-/

namespace Pipework.Pattern

open Unicode (RangeSet)

/-- What has been built of a machine: its states, and the bytes of the tables they own. -/
structure Machine where
  states : Nat
  tables : Nat

namespace Machine

/-- The bytes of a state, of an edge of a state with several, and of a branch of a fork. -/
def stateSize : Nat := 32
def edgeSize : Nat := 8
def branchSize : Nat := 4

def size (m : Machine) : Nat := stateSize * m.states + m.tables

/-- A machine may not take more than this many bytes. -/
def limit : Nat := 10485760

/-- Building steps; they stop when the machine exceeds the limit. -/
abbrev Build := StateT Machine Option

def grow (states tables : Nat) : Build Unit := fun m =>
  let m : Machine := ⟨m.states + states, m.tables + tables⟩
  if m.size ≤ limit then some ((), m) else none

/-- Adds one state and gives its number. -/
def newState (tables : Nat) : Build Nat := do
  let number := (← get).states
  grow 1 tables
  return number

inductive Direction where
  | forward
  | backward
  deriving DecidableEq, Repr

/-! ## States that are shared -/

/-- Remembers the states for some keys; a key that falls into a taken slot takes its place. -/
structure Memo (κ : Type) where
  slots : Array (Option (κ × Nat))

namespace Memo

def ofSize (κ : Type) (size : Nat) : Memo κ := ⟨Array.replicate size none⟩

/-- The slot for the numbers that make up a key. -/
def slot {κ : Type} (m : Memo κ) (numbers : List Nat) : Nat :=
  let start : UInt64 := 0xcbf29ce484222325
  let factor : UInt64 := 0x100000001b3
  (numbers.foldl (fun h n => (h ^^^ n.toUInt64) * factor) start).toNat % m.slots.size

/-- The state for a key: the one that is remembered, else a new one. -/
def state {κ : Type} [DecidableEq κ] (key : κ) (numbers : List Nat) (tables : Nat) :
    StateT (Memo κ) Build Nat := do
  let memo ← get
  let slot := memo.slot numbers
  match memo.slots.getD slot none with
  | some (known, number) => if known = key then return number
  | none => pure ()
  let number ← newState tables
  set (⟨memo.slots.setIfInBounds slot (some (key, number))⟩ : Memo κ)
  return number

end Memo

/-- A range of bytes with the state that it leads to. -/
structure Edge where
  range : ByteRange
  next : Nat
  deriving DecidableEq, Repr

def Edge.numbers (e : Edge) : List Nat := [e.range.first.toNat, e.range.last.toNat, e.next]

/-! ## Sets of characters -/

/-- The longest UTF-8 form of a character. -/
def longestForm : Nat := 4

/-- The state from which the rows lead to the target. Rows that begin alike share the edge. -/
def rowsState (target : Nat) : Nat → List ByteRow → StateT (Memo (List Edge)) Build Nat
  | 0, _ => return target
  | depth + 1, rows => do
    let groups := rows.splitBy fun a b => a.head? == b.head?
    let edges ← groups.filterMapM fun group => do
      match group.head?.bind List.head? with
      | none => return none
      | some range =>
        let ends := group.map List.tail
        let next ← if ends.all List.isEmpty then pure target else rowsState target depth ends
        return some (⟨range, next⟩ : Edge)
    Memo.state edges (edges.flatMap Edge.numbers) (edgeSize * edges.length)

/-- The state before a row whose bytes are read from its end. -/
def rowState (target : Nat) (row : ByteRow) : StateT (Memo Edge) Build Nat :=
  row.foldlM (fun next range =>
    let edge : Edge := ⟨range, next⟩
    Memo.state edge [next, range.first.toNat, range.last.toNat] 0) target

def isAscii (s : RangeSet) : Bool := s.toList.all fun range => range.2 < 128

def set (d : Direction) (s : RangeSet) : Build Unit := do
  if isAscii s then grow 2 (edgeSize * s.toList.length)
  else
    let rows := ByteRow.ofSet s
    match d with
    | .forward =>
      let target ← newState 0
      let _ ← (rowsState target longestForm rows).run (.ofSize _ 10000)
    | .backward =>
      grow 1 (branchSize * rows.length)
      let target ← newState 0
      let _ ← (rows.forM fun row => do let _ ← rowState target row).run (.ofSize _ 1000)

/-! ## Choices between texts -/

/-- Of several words that end at the start of a choice only the first one counts. -/
def dropRepeatedEnds : List (List UInt8) → List (List UInt8)
  | [] :: words => [] :: words.dropWhile List.isEmpty
  | words => words

/-- A tree for words of at most `depth` bytes, each of its nodes a fork. Words share the nodes of
what they begin with, unless a word that ends at a node stands between them. -/
def wordTree : Nat → List (List UInt8) → Build Unit
  | 0, _ => pure ()
  | depth + 1, words =>
    if words.all List.isEmpty then pure ()
    else do
      let stretches := (dropRepeatedEnds words).splitOnP List.isEmpty
      for stretch in stretches do
        let heads := (stretch.filterMap List.head?).eraseDups
        for head in heads do
          wordTree depth (stretch.filterMap fun word =>
            if word.head? = some head then some word.tail else none)
        match heads with
        | [] => pure ()
        | [_] => grow 1 branchSize
        | _ => grow 1 (edgeSize * heads.length + branchSize)
      grow 1 (branchSize * (stretches.length - 1))

def bytes (text : List Char) : List UInt8 := text.flatMap String.utf8EncodeChar

def words (d : Direction) (texts : List (List Char)) : Build Unit := do
  let words := texts.map bytes
  let words := match d with
    | .forward => words
    | .backward => words.map List.reverse
  grow 1 0
  wordTree ((words.map List.length).foldl max 0 + 1) words

/-! ## Repetitions -/

/-- Leads a part on to the next state; a part that ends in a fork has one branch more for that. -/
def lead (fork : Bool) : Build Unit := if fork then grow 0 branchSize else pure ()

/-- Copies of a part that lead on to each other and behind the last. -/
def copies (part : Build Bool) : Nat → Build Unit
  | 0 => pure ()
  | count + 1 => do
    lead (← part)
    copies part count

def exactly (part : Build Bool) : Nat → Build Bool
  | 0 => do
    grow 1 0
    return false
  | count + 1 => do
    copies part count
    part

/-- A part under a repetition; the values of both tell whether they end in a fork. -/
def repetition (part : Build Bool) (takesMore : Bool) (least : Nat) : Option Nat → Build Bool
  | none =>
    if 0 < least then do
      copies part least
      grow 1 branchSize
      return true
    else if takesMore then do
      grow 1 branchSize
      lead (← part)
      return true
    else do
      lead (← part)
      grow 3 (4 * branchSize)
      return false
  | some most =>
    if most = least then exactly part least
    else if least = 0 ∧ most = 1 then do
      grow 1 (2 * branchSize)
      lead (← part)
      grow 1 0
      return false
    else do
      lead (← exactly part least)
      grow 1 0
      copies (do grow 1 (2 * branchSize); part) (most - least)
      return false

end Machine

/-! ## Patterns -/

namespace Expr

open Machine

mutual
/-- Whether some set in the pattern has no members. -/
def hasVoid : Expr → Bool
  | .empty | .text _ | .look _ => false
  | .one s => s.isEmpty
  | .rep item _ _ _ | .group _ item => item.hasVoid
  | .seq items | .alt items => anyHasVoid items

def anyHasVoid : List Expr → Bool
  | [] => false
  | item :: rest => item.hasVoid || anyHasVoid rest
end

mutual
/-- Whether the pattern asks for a character in every case. -/
def asksMore : Expr → Bool
  | .empty | .look _ => false
  | .text _ | .one _ => true
  | .rep item least _ _ => item.asksMore && 0 < least
  | .group _ item => item.asksMore
  | .seq items => anyAsksMore items
  | .alt branches => allAskMore branches

def anyAsksMore : List Expr → Bool
  | [] => false
  | item :: rest => item.asksMore || anyAsksMore rest

def allAskMore : List Expr → Bool
  | [] => true
  | item :: rest => item.asksMore && allAskMore rest
end

/-- Whether every match surely takes a character. -/
def takesMore (e : Expr) : Bool := e.asksMore && !e.hasVoid

mutual
/-- Whether the condition stands at one end of every match. -/
def isBound (d : Direction) (condition : Look) : Expr → Bool
  | .empty | .text _ | .one _ => false
  | .look other => other == condition
  | .rep item least _ _ => 0 < least && item.isBound d condition
  | .group _ item => item.isBound d condition
  | .seq items => rowIsBound d condition items
  | .alt branches => allBound d condition branches

/-- Only empty parts may stand between the end of the row and the condition. -/
def rowIsBound (d : Direction) (condition : Look) : List Expr → Bool
  | [] => false
  | item :: rest =>
    match d with
    | .forward => item.isBound d condition || (item.isEmpty && rowIsBound d condition rest)
    | .backward => rowIsBound d condition rest || (allEmpty rest && item.isBound d condition)

def allBound (d : Direction) (condition : Look) : List Expr → Bool
  | [] => true
  | item :: rest => item.isBound d condition && allBound d condition rest
end

def text? : Expr → Option (List Char)
  | .text cs => some cs
  | _ => none

mutual
/-- Builds the part of a machine for a pattern; its value tells whether the part ends in a fork. -/
def build (d : Direction) : Expr → Build Bool
  | .empty | .look _ => do
    grow 1 0
    return false
  | .text cs => do
    grow (cs.foldl (fun n c => n + c.utf8Size) 0) 0
    return false
  | .one s => do
    Machine.set d s
    return false
  | .rep item least most _ => repetition (item.build d) item.takesMore least most
  | .group _ item =>
    match d with
    | .backward => item.build d
    | .forward => do
      grow 1 0
      lead (← item.build d)
      grow 1 0
      return false
  | .seq items => buildRow d items
  | .alt branches =>
    match branches.mapM text? with
    | some texts => do
      words d texts
      return false
    | none => do
      buildBranches d 0 branches
      return false

/-- The parts of a row are built in the order in which they are read. -/
def buildRow (d : Direction) : List Expr → Build Bool
  | [] => do
    grow 1 0
    return false
  | [item] => item.build d
  | item :: rest =>
    match d with
    | .forward => do
      lead (← item.build d)
      buildRow d rest
    | .backward => do
      lead (← buildRow d rest)
      item.build d

/-- The fork and the common end come behind the second branch. -/
def buildBranches (d : Direction) (index : Nat) : List Expr → Build Unit
  | [] => pure ()
  | branch :: rest => do
    lead (← branch.build d)
    if index = 1 then grow 2 branchSize else grow 0 branchSize
    buildBranches d (index + 1) rest
end

/-- A match may begin anywhere, unless the pattern is bound to the edge of the text. -/
def buildStart (d : Direction) (e : Expr) : Build Unit :=
  let edge : Look := match d with
    | .forward => .textStart
    | .backward => .textEnd
  if e.isBound d edge then grow 1 0 else grow 3 (edgeSize + 2 * branchSize)

/-- The whole machine; forwards it marks where a match begins and ends. -/
def machine? (d : Direction) (e : Expr) : Option Machine :=
  let steps : Build Unit := do
    buildStart d e
    match d with
    | .forward => do
      let _ ← Expr.build d (.group 0 e)
      grow 1 0
    | .backward => do
      lead (← e.build d)
      grow 1 0
  (steps.run ⟨0, 0⟩).map (·.2)

/-- Whether the machines of a pattern keep to the limit. -/
def isSmall (e : Expr) : Bool := (e.machine? .forward).isSome && (e.machine? .backward).isSome

end Expr

end Pipework.Pattern
