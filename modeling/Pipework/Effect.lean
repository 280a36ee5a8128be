import Pipework.Outcome
import Pipework.Stage

/-!
# Effects

What a run does that can be seen from outside, in the order in which it happens, and the report
that it closes with.
-/

namespace Pipework

structure Report where
  command : String
  outcome : Outcome
  total : Nat
  spawned : Nat
  maxResident : Nat
  merges : Nat
  deriving DecidableEq, Repr

inductive Effect where
  | print (text : String)
  | status (text : String)
  | clearStatus
  | fetch (args : List String) (env : Dict String)
  | exported (files : Snapshot)
  /-- `refusal` says why the snapshot was not taken over. -/
  | imported (files : Snapshot) (refusal : Option String)
  | lineRead (line : Option String)
  | completed (report : Report)
  deriving DecidableEq

/-- The request that was made with an effect. -/
def Effect.request? : Effect → Option Request
  | .fetch args env => some ⟨args, env⟩
  | _ => none

/-- Where output goes. Prints and status lines may each have nowhere to go; the size of the screen
is given in rows and columns. -/
structure Console where
  prints : Bool
  statuses : Bool
  size : Option (Nat × Nat)

namespace Console

def none : Console := ⟨false, false, .none⟩

def print (c : Console) (text : String) : List Effect := if c.prints then [.print text] else []

def status (c : Console) (text : String) : List Effect := if c.statuses then [.status text] else []

def clearStatus (c : Console) : List Effect := if c.statuses then [.clearStatus] else []

end Console

end Pipework
