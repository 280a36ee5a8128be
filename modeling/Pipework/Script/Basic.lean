import Pipework.Fault
import Pipework.Text.LetterCase
import Pipework.Text.Blank

/-!
# Filter scripts

A script is a list of steps. Actions run once; a filter passes the lines of the input through a
chain of operations and writes what comes out, or only how many lines did.
-/

namespace Pipework

namespace Script

inductive Transform where
  | upper
  | lower
  | trim
  | reverse
  deriving DecidableEq, Repr

def Transform.named? : String → Option Transform
  | "upper" => some .upper
  | "lower" => some .lower
  | "trim" => some .trim
  | "reverse" => some .reverse
  | _ => none

def Transform.apply : Transform → String → String
  | .upper, line => LetterCase.upper line
  | .lower, line => LetterCase.lower line
  | .trim, line => Blank.trim line
  | .reverse, line => String.ofList line.toList.reverse

/-- Operations of a chain. Texts may hold variables, which are filled in when the script runs. -/
inductive Op where
  | map (t : Transform)
  | grep (pattern : String) (invert ignoreCase : Bool)
  | head (limit : Nat)
  | number
  | lead (text : String)
  | tee (path : String)
  deriving DecidableEq, Repr

inductive Step where
  | emit (text : String)
  | read (path : String)
  | write (path text : String)
  | fail (message : String)
  | filter (chain : List Op) (count : Bool)
  deriving DecidableEq, Repr

end Script

structure Script where
  name : String
  steps : List Script.Step
  deriving DecidableEq, Repr

/-- Only filters look at the input. -/
def Script.readsInput (s : Script) : Bool :=
  s.steps.any fun
    | .filter .. => true
    | _ => false

end Pipework
