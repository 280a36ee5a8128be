import Pipework.Pattern.Flaw

/-!
# Patterns as they are written

The tree of a pattern keeps what was written and where, so that later checks can point at it.
-/

namespace Pipework.Pattern

inductive Flag where
  | ignoreCase
  | multiLine
  | dotAll
  | swapGreed
  | unicode
  | crlf
  | verbose
  deriving DecidableEq, Repr

/-- Flags switched on and flags switched off by one group. -/
structure Switches where
  on : List Flag
  off : List Flag
  deriving Repr

/-- What the switches say about a flag, nothing if they do not name it. -/
def Switches.state? (s : Switches) (f : Flag) : Option Bool :=
  if s.on.contains f then some true else if s.off.contains f then some false else none

inductive Anchor where
  | lineStart
  | lineEnd
  | textStart
  | textEnd
  | boundary
  | notBoundary
  | wordStart
  | wordEnd
  | wordStartHalf
  | wordEndHalf
  deriving DecidableEq, Repr

/-- Classes named by one letter. -/
inductive Shorthand where
  | digit
  | space
  | word
  deriving DecidableEq, Repr

/-- A character property by one name, or a property and its value. -/
inductive PropertyName where
  | named (name : String)
  | valued (property value : String) (equal : Bool)
  deriving DecidableEq, Repr

/-- A character; `isByte` when it was written as two hexadecimal digits. -/
structure Literal where
  span : Span
  char : Char
  isByte : Bool
  deriving Repr

inductive SetOp where
  | intersection
  | difference
  | symmetricDifference
  deriving DecidableEq, Repr

inductive ClassNode where
  | literal (l : Literal)
  | range (span : Span) (first last : Literal)
  | posix (span : Span) (name : String) (negated : Bool)
  | shorthand (span : Span) (kind : Shorthand) (negated : Bool)
  | property (span : Span) (name : PropertyName) (negated : Bool)
  | bracketed (span : Span) (negated : Bool) (inner : ClassNode)
  | union (span : Span) (items : List ClassNode)
  | binary (span : Span) (op : SetOp) (left right : ClassNode)
  deriving Repr

inductive Node where
  | flags (span : Span) (switches : Switches)
  | literal (l : Literal)
  | dot (span : Span)
  | anchor (span : Span) (kind : Anchor)
  | shorthand (span : Span) (kind : Shorthand) (negated : Bool)
  | property (span : Span) (name : PropertyName) (negated : Bool)
  | bracketed (span : Span) (negated : Bool) (inner : ClassNode)
  | repeated (span : Span) (least : Nat) (most : Option Nat) (greedy : Bool) (item : Node)
  /-- Parentheses that stand for a part of their own have a number, counted from the left. -/
  | group (span : Span) (number : Option Nat) (switches : Switches) (inner : Node)
  | concat (span : Span) (items : List Node)
  | alternation (span : Span) (branches : List Node)
  deriving Repr

def ClassNode.span : ClassNode → Span
  | .literal l => l.span
  | .range s .. | .posix s .. | .shorthand s .. | .property s .. | .bracketed s .. | .union s ..
  | .binary s .. => s

def Node.span : Node → Span
  | .literal l => l.span
  | .flags s .. | .dot s | .anchor s .. | .shorthand s .. | .property s .. | .bracketed s ..
  | .repeated s .. | .group s .. | .concat s .. | .alternation s .. => s

/-! ## Nesting -/

/-- The stretch of the first part that lies deeper than `budget` levels. -/
def ClassNode.tooDeep? (budget : Nat) : ClassNode → Option Span
  | .bracketed span _ inner =>
    match budget with
    | 0 => some span
    | budget + 1 => inner.tooDeep? budget
  | .union span items =>
    match budget with
    | 0 => some span
    | budget + 1 => listTooDeep? budget items
  | .binary span _ left right =>
    match budget with
    | 0 => some span
    | budget + 1 =>
      match left.tooDeep? budget with
      | some span => some span
      | none => right.tooDeep? budget
  | _ => none
where
  listTooDeep? (budget : Nat) : List ClassNode → Option Span
    | [] => none
    | item :: rest =>
      match item.tooDeep? budget with
      | some span => some span
      | none => listTooDeep? budget rest

def Node.tooDeep? (budget : Nat) : Node → Option Span
  | .bracketed span _ inner =>
    match budget with
    | 0 => some span
    | budget + 1 => inner.tooDeep? budget
  | .repeated span _ _ _ item =>
    match budget with
    | 0 => some span
    | budget + 1 => item.tooDeep? budget
  | .group span _ _ inner =>
    match budget with
    | 0 => some span
    | budget + 1 => inner.tooDeep? budget
  | .concat span items =>
    if items.isEmpty then none
    else match budget with
      | 0 => some span
      | budget + 1 => listTooDeep? budget items
  | .alternation span branches =>
    match budget with
    | 0 => some span
    | budget + 1 => listTooDeep? budget branches
  | _ => none
where
  listTooDeep? (budget : Nat) : List Node → Option Span
    | [] => none
    | item :: rest =>
      match item.tooDeep? budget with
      | some span => some span
      | none => listTooDeep? budget rest

end Pipework.Pattern
