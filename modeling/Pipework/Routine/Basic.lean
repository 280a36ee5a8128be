import Pipework.Program
import Pipework.Text.Utf8

/-!
# Routines

A routine is a program written down as a list of steps, each of which uses the surroundings of a
stage in one way. Steps that read lines share the line buffer of the run.
-/

namespace Pipework

inductive Routine.Step where
  | write (data : Bytes)
  /-- Writes the arguments as a line of JSON. -/
  | showArgs
  /-- Writes the environment as a line of JSON. -/
  | showEnv
  /-- Copies lines with a text in front of each; with a limit it stops after that many. -/
  | copy (lead : String) (limit : Option Nat)
  /-- Reads all lines and writes how many there were. -/
  | count
  /-- Reads the rest of the input and writes it at once. -/
  | copyRest
  /-- Reads once, then writes how many bytes came and the bytes. -/
  | piece (limit : Nat)
  /-- Writes a field of the snapshot as a line of JSON. -/
  | show (path : String)
  | store (path : String) (value : Json)
  | replace (files : Snapshot)
  | fail (why : Fault)
  | panic (text : Option String)
  /-- Writes over and over, until a write fails. -/
  | flood (data : Bytes)
  | pause

abbrev Routine := List Routine.Step

namespace Routine

/-- The text of a line as it is written. -/
def line (s : String) : Bytes := Utf8.encode (s ++ "\n")

def argsJson (inv : Invocation) : Json := .texts inv.args

def envJson (inv : Invocation) : Json := .textDict inv.env

def shown (files : Snapshot) (path : String) : Json := (files.field? path).getD .null

/-- A snapshot with a field set; one that is no object is emptied first. -/
def stored (files : Snapshot) (path : String) (value : Json) : Snapshot :=
  match files with
  | .object fields => .object (Dict.insert path value fields)
  | _ => .object [(path, value)]

/-- A running routine: what it was started with, the snapshot, and the steps still to do. A step
that is under way stands first, as what is left of it. -/
structure Run where
  inv : Invocation
  files : Snapshot
  /-- Lines counted by the step under way. -/
  seen : Nat
  steps : Routine

namespace Run

def broken (r : Run) (why : Fault) : Run := { r with steps := [.fail why] }

/-- Goes on with the given steps, or ends with the fault of the write before. -/
def wrote (r : Run) (steps : Routine) : Except Fault Unit → Run
  | .ok () => { r with steps := steps }
  | .error why => r.broken why

def gotLine (r : Run) (lead : String) (limit : Option Nat) (rest : Routine) :
    Except Fault (Option String) → Run
  | .ok (some text) =>
    { r with steps := .write (line (lead ++ text)) :: .copy lead (limit.map (· - 1)) :: rest }
  | .ok none => { r with steps := rest }
  | .error why => r.broken why

def counted (r : Run) (rest : Routine) : Except Fault (Option String) → Run
  | .ok (some _) => { r with seen := r.seen + 1 }
  | .ok none => { r with seen := 0, steps := .write (line (toString r.seen)) :: rest }
  | .error why => r.broken why

def gotRest (r : Run) (rest : Routine) : Except Fault Bytes → Run
  | .ok data => { r with steps := .write data :: rest }
  | .error why => r.broken why

def gotPiece (r : Run) (rest : Routine) : Except Fault Bytes → Run
  | .ok data =>
    { r with steps := .write (Utf8.encode (toString data.length ++ ":")) :: .write data :: rest }
  | .error why => r.broken why

/-- Does the steps that need nothing of the surroundings and demands what the next one needs. -/
def begin (r : Run) (files : Snapshot) : Routine → Demand Run
  | [] => .finish .done files
  | .write data :: rest => .write data ({ r with files }.wrote rest)
  | .showArgs :: rest => .write (line (argsJson r.inv).render) ({ r with files }.wrote rest)
  | .showEnv :: rest => .write (line (envJson r.inv).render) ({ r with files }.wrote rest)
  | .copy _ (some 0) :: rest => r.begin files rest
  | .copy lead limit :: rest => .line ({ r with files }.gotLine lead limit rest)
  | .count :: rest => .line ({ r with files, steps := .count :: rest }.counted rest)
  | .copyRest :: rest => .rest ({ r with files }.gotRest rest)
  | .piece limit :: rest => .piece limit ({ r with files }.gotPiece rest)
  | .show path :: rest => .write (line (shown files path).render) ({ r with files }.wrote rest)
  | .store path value :: rest => r.begin (stored files path value) rest
  | .replace files :: rest => r.begin files rest
  | .fail why :: _ => .finish (.failed why) files
  | .panic text :: _ => .finish (.panicked text) files
  | .flood data :: rest => .write data ({ r with files }.wrote (.flood data :: rest))
  | .pause :: rest => r.begin files rest

def demand (r : Run) : Demand Run := r.begin r.files r.steps

end Run

instance : Program Routine where
  State := Run
  start steps inv := ⟨inv, inv.files, 0, steps⟩
  demand := Run.demand

end Routine

end Pipework
