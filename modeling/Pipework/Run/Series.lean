import Pipework.Run.Schedule

/-!
# Series of runs

Command lines carried through one after another in one session. A tripwire requests a kill of the
run in which something happens for the n-th time, counted over the whole session.
-/

namespace Pipework

inductive Tripwire.Sign where
  | print
  | fetch
  | lineWanted
  deriving DecidableEq, Repr

structure Tripwire where
  sign : Tripwire.Sign
  count : Nat
  deriving DecidableEq, Repr

namespace Tripwire

def Sign.isPrint : Effect → Bool
  | .print _ => true
  | _ => false

def Sign.isFetch : Effect → Bool
  | .fetch .. => true
  | _ => false

/-- How often a sign was seen in a session. -/
def Sign.seen {F : Type} (s : Session F) : Sign → Nat
  | .print => s.effects.countP isPrint
  | .fetch => s.effects.countP isFetch
  | .lineWanted => (s.input.map (·.calls)).getD 0

variable {P F : Type} [Program P] [Filesystem F]

/-- Watches a run that began when the sign had been seen `before` times. -/
def watch (w : Tripwire) (before : Nat) (r : Run P F) : Run P F :=
  if before < w.count && !r.killRequested && w.count ≤ w.sign.seen r.session then
    { r with killRequested := true }
  else r

end Tripwire

namespace Run

variable {P F : Type} [Program P] [Filesystem F]

/-- How the runs of a series are treated. -/
structure Treatment where
  /-- A kill is requested before each run begins. -/
  killFirst : Bool
  tripwire : Option Tripwire

def Treatment.plain : Treatment := ⟨false, none⟩

def Treatment.watch (t : Treatment) (s : Session F) : Run P F → Run P F :=
  match t.tripwire with
  | some w => w.watch (w.sign.seen s)
  | none => id

/-- One line carried through; every run is given the same number of turns. -/
def carryOut (ctx : Setting P) (t : Treatment) (turns : Nat) (line : String) (s : Session F) :
    Run P F :=
  execute ctx (t.watch s) turns { Run.new line s with killRequested := t.killFirst }

/-- The runs in order; each begins with the session that the one before has left. -/
def series (ctx : Setting P) (t : Treatment) (turns : Nat) :
    List String → Session F → List (Run P F)
  | [], _ => []
  | line :: rest, s =>
    let r := carryOut ctx t turns line s
    r :: series ctx t turns rest r.session

end Run

end Pipework
