import Pipework.Rehearsal
import Pipework.Script.Run

/-!
# Rehearsing programs

A program is carried through act by act against a rehearsal until it ends. For a script the number
of acts is bounded by its input and its steps.
-/

namespace Pipework

namespace Rehearsal

variable {P : Type} [Program P]

/-- Carries a task through at most `fuel` acts; nothing if it has not ended by then. -/
def perform (r : Rehearsal) : Nat → Task P → Option (Verdict × Snapshot × Rehearsal)
  | 0, _ => none
  | fuel + 1, t =>
    match t.act with
    | .silent next => r.perform fuel next
    | .read limit answer =>
      let (result, r) := r.read limit
      r.perform fuel (answer result)
    | .write data answer =>
      let (result, r) := r.write data
      r.perform fuel (answer result)
    | .finish verdict files => some (verdict, files, r)

end Rehearsal

namespace Script

/-- Every line costs an act to take and one to write, every read takes at least a byte or is the
last, and every step adds a few acts of its own. -/
def actBound (s : Script) (r : Rehearsal) : Nat := 4 * (r.remaining + s.steps.length + 1)

def rehearse (s : Script) (inv : Invocation) (r : Rehearsal) :
    Option (Verdict × Snapshot × Rehearsal) :=
  r.perform (s.actBound r) (Task.start s inv)

end Script

end Pipework
