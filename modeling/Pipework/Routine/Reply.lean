import Pipework.Routine.Basic
import Pipework.Stage

/-!
# Replies

A reply is a callback written down as a list of steps. The texts they give are joined; without any
there is no output. A fault ends the reply and keeps what was done to the snapshot before.
-/

namespace Pipework

inductive Reply.Step where
  | write (text : String)
  | showArgs
  | showEnv
  /-- Gives back the whole input. -/
  | echoInput
  | show (path : String)
  | store (path : String) (value : Json)
  | replace (files : Snapshot)
  | fail (why : Fault)

abbrev Reply := List Reply.Step

namespace Reply

/-- The steps from a snapshot and the output so far. -/
def carryOut (inv : Invocation) (input : String) :
    Snapshot → Option String → Reply → Except Fault (Option String) × Snapshot
  | files, output, [] => (.ok output, files)
  | files, output, step :: rest =>
    let add (text : String) := some (output.getD "" ++ text)
    match step with
    | .write text => carryOut inv input files (add text) rest
    | .showArgs => carryOut inv input files (add (Routine.argsJson inv).render) rest
    | .showEnv => carryOut inv input files (add (Routine.envJson inv).render) rest
    | .echoInput => carryOut inv input files (add input) rest
    | .show path => carryOut inv input files (add (Routine.shown files path).render) rest
    | .store path value => carryOut inv input (Routine.stored files path value) output rest
    | .replace files => carryOut inv input files output rest
    | .fail why => (.error why, files)

/-- A reply remembers nothing. -/
def callback (steps : Reply) : Callback := fun _ inv input =>
  carryOut inv input inv.files none steps

end Reply

end Pipework
