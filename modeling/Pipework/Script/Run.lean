import Pipework.Pattern.Basic
import Pipework.Script.Basic
import Pipework.Script.Expand
import Pipework.Text.Numeral

/-!
# Running scripts

A script runs as a program. Each line read goes through the whole chain before the next is asked
for, so a filter writes while its input is still coming. A head that has let its last line through
ends the filter, and input that is left belongs to the next filter.
-/

namespace Pipework.Script

/-- An operation made ready for one run. -/
inductive ReadyOp where
  | map (t : Transform)
  | grep (pattern : Pattern) (invert : Bool)
  | head (limit : Nat)
  | number
  | lead (text : String)
  | tee (path : String)

def Op.ready (inv : Invocation) : Op → Except Fault ReadyOp
  | .map t => .ok (.map t)
  | .grep pattern invert ignoreCase =>
    let text := expand inv pattern
    match Pattern.compile text ignoreCase with
    | .ok p => .ok (.grep p invert)
    | .error message => .error ((Fault.of message).within ("invalid pattern \x60" ++ text ++ "\x60"))
  | .head limit => .ok (.head limit)
  | .number => .ok .number
  | .lead text => .ok (.lead (expand inv text))
  | .tee path => .ok (.tee (expand inv path))

/-- An operation of a running filter with the number of lines it has counted. -/
structure Cell where
  op : ReadyOp
  seen : Nat

/-- What becomes of a line in a chain; the cells are the chain afterwards. -/
inductive LineResult where
  | through (line : String) (last : Bool) (cells : List Cell) (files : Snapshot)
  | dropped (cells : List Cell) (files : Snapshot)
  | halted (cells : List Cell) (files : Snapshot)
  | broken (why : Fault) (files : Snapshot)

/-- Sends a line through the chain. `passed` are the cells behind it, last first; `last` tells
whether some head let its last line through. -/
def pass (passed : List Cell) (last : Bool) (line : String) (files : Snapshot) :
    List Cell → LineResult
  | [] => .through line last passed.reverse files
  | cell :: rest =>
    let step (c : Cell) := c :: passed
    match cell.op with
    | .map t => pass (step cell) last (t.apply line) files rest
    | .grep p invert =>
      if p.isMatch line = invert then .dropped (passed.reverse ++ cell :: rest) files
      else pass (step cell) last line files rest
    | .head limit =>
      if limit ≤ cell.seen then .halted (passed.reverse ++ cell :: rest) files
      else
        let seen := cell.seen + 1
        pass (step { cell with seen }) (last || seen == limit) line files rest
    | .number =>
      let seen := cell.seen + 1
      pass (step { cell with seen }) last (Numeral.padLeft 6 seen ++ "\t" ++ line) files rest
    | .lead text => pass (step cell) last (text ++ line) files rest
    | .tee path =>
      let content := (Snapshot.read? files path).getD "" ++ line ++ "\n"
      match Snapshot.write files path content with
      | .ok files => pass (step cell) last line files rest
      | .error why => .broken why files

/-- A filter at work. -/
structure Filter where
  cells : List Cell
  count : Bool
  /-- Lines that came through. -/
  passed : Nat

/-- Empties the files that the chain will write to. -/
def emptyTees (files : Snapshot) : List Cell → Except Fault Snapshot
  | [] => .ok files
  | cell :: rest =>
    match cell.op with
    | .tee path =>
      match Snapshot.write files path "" with
      | .ok files => emptyTees files rest
      | .error why => .error why
    | _ => emptyTees files rest

def Filter.start (inv : Invocation) (chain : List Op) (count : Bool) (files : Snapshot) :
    Except Fault (Filter × Snapshot) :=
  match chain.mapM (Op.ready inv) with
  | .error why => .error why
  | .ok ops =>
    let cells := ops.map fun op => ⟨op, 0⟩
    match emptyTees files cells with
    | .error why => .error why
    | .ok files => .ok (⟨cells, count, 0⟩, files)

/-- Where a running script stands. -/
inductive State where
  | before (steps : List Step) (files : Snapshot)
  | filtering (filter : Filter) (rest : List Step) (files : Snapshot)
  | writing (data : Bytes) (files : Snapshot) (next : State)
  | ended (verdict : Verdict) (files : Snapshot)

def textLine (s : String) : Bytes := Utf8.encode (s ++ "\n")

/-- Where a filter leaves the script when it ends. -/
def Filter.close (f : Filter) (rest : List Step) (files : Snapshot) : State :=
  if f.count then .writing (textLine (toString f.passed)) files (.before rest files)
  else .before rest files

/-- A line is dealt with, or the end of input, or a failed read. -/
def Filter.gotLine (f : Filter) (rest : List Step) (files : Snapshot) :
    Except Fault (Option String) → State
  | .error why => .ended (.failed why) files
  | .ok none => f.close rest files
  | .ok (some line) =>
    match pass [] false line files f.cells with
    | .broken why files => .ended (.failed why) files
    | .dropped cells files => .filtering { f with cells } rest files
    | .halted cells files => Filter.close { f with cells } rest files
    | .through line last cells files =>
      let f := { f with cells, passed := f.passed + 1 }
      let next := if last then f.close rest files else .filtering f rest files
      if f.count then next else .writing (textLine line) files next

/-- The answer to a write: the script goes on or ends. -/
def gotWrite (files : Snapshot) (next : State) : Except Fault Unit → State
  | .ok () => next
  | .error why => .ended (.failed why) files

/-- Runs actions up to the first demand. -/
def begin (inv : Invocation) : List Step → Snapshot → Demand State
  | [], files => .finish .done files
  | .emit text :: rest, files =>
    .write (textLine (expand inv text)) (gotWrite files (.before rest files))
  | .read path :: rest, files =>
    let path := expand inv path
    match Snapshot.read? files path with
    | some content => .write (Utf8.encode content) (gotWrite files (.before rest files))
    | none => .finish (.failed (.of (path ++ ": No such file or directory"))) files
  | .write path text :: rest, files =>
    match Snapshot.write files (expand inv path) (expand inv text ++ "\n") with
    | .ok files => begin inv rest files
    | .error why => .finish (.failed why) files
  | .fail message :: _, files => .finish (.failed (.of (expand inv message))) files
  | .filter chain count :: rest, files =>
    match Filter.start inv chain count files with
    | .ok (filter, files) => .line (filter.gotLine rest files)
    | .error why => .finish (.failed why) files

def State.demand (inv : Invocation) : State → Demand State
  | .before steps files => begin inv steps files
  | .filtering filter rest files => .line (filter.gotLine rest files)
  | .writing data files next => .write data (gotWrite files next)
  | .ended verdict files => .finish verdict files

/-- A running script: its invocation and where it stands. -/
structure Run where
  inv : Invocation
  state : State

def Run.demand (r : Run) : Demand Run := (r.state.demand r.inv).map (Run.mk r.inv)

instance : Program Script where
  State := Run
  start script inv := ⟨inv, .before script.steps inv.files⟩
  demand := Run.demand

end Pipework.Script
