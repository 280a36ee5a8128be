import Pipework.Program
import Pipework.Text.Name

/-!
# Variables in scripts

A text is cut into plain characters and variables once, from left to right, and the values are put
in; what a value holds is not looked at again. A doubled dollar sign stands for one.
-/

namespace Pipework.Script

inductive Variable where
  | dollar
  | argument (index : Nat)
  | arguments
  | named (name : String)
  deriving DecidableEq, Repr

inductive Piece where
  | char (c : Char)
  | var (v : Variable)
  deriving DecidableEq, Repr

/-- The variable whose text follows a dollar sign, and how many characters that text has. -/
def variableAt? (rest : List Char) : Option (Variable × Nat) :=
  match rest with
  | '$' :: _ => some (.dollar, 1)
  | '@' :: _ => some (.arguments, 1)
  | '{' :: more =>
    let name := more.takeWhile Name.isPart
    if Name.isName name && (more.drop name.length).head? == some '}' then
      some (.named (String.ofList name), name.length + 2)
    else none
  | c :: _ => if c.isDigit then some (.argument (c.toNat - 48), 1) else none
  | [] => none

/-- Passes over the characters that belong to a variable already found. -/
def piecesFrom : Nat → List Char → List Piece
  | _, [] => []
  | skip + 1, _ :: rest => piecesFrom skip rest
  | 0, c :: rest =>
    if c = '$' then
      match variableAt? rest with
      | some (v, width) => .var v :: piecesFrom width rest
      | none => .char c :: piecesFrom 0 rest
    else .char c :: piecesFrom 0 rest

def pieces (text : List Char) : List Piece := piecesFrom 0 text

def Variable.value (inv : Invocation) : Variable → String
  | .dollar => "$"
  | .argument index => (inv.args[index]?).getD ""
  | .arguments => " ".intercalate (inv.args.drop 1)
  | .named name => (inv.env.get? name).getD ""

def Piece.value (inv : Invocation) : Piece → List Char
  | .char c => [c]
  | .var v => (v.value inv).toList

def expand (inv : Invocation) (text : String) : String :=
  String.ofList ((pieces text.toList).flatMap (Piece.value inv))

end Pipework.Script
