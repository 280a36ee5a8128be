import Pipework.Script.Basic
import Pipework.Text.Lines
import Pipework.Text.Numeral
import Pipework.Text.Utf8

/-!
# Compiling scripts

One instruction stands on each line; blank lines and lines that start with a number sign are
skipped. Filter instructions that follow each other form one chain, which ends at an action, at
`count`, or with the script.
-/

namespace Pipework.Script

/-- What one line says. -/
inductive Instruction where
  | op (o : Op)
  | cat
  | count
  | action (s : Step)
  deriving DecidableEq, Repr

/-- The first word of a line and the trimmed rest of it. -/
def splitWord (line : List Char) : String × List Char :=
  match Blank.splitOnce? line with
  | some (word, rest) => (String.ofList word, Blank.trimEnd (Blank.trimStart rest))
  | none => (String.ofList line, [])

structure GrepFlags where
  invert : Bool
  ignoreCase : Bool
  pattern : List Char

/-- Takes flags off the front of a pattern; a flag is followed by a space. -/
def grepFlags : Nat → GrepFlags → GrepFlags
  | 0, g => g
  | fuel + 1, g =>
    match g.pattern with
    | '-' :: 'v' :: ' ' :: rest =>
      grepFlags fuel { g with invert := true, pattern := Blank.trimStart rest }
    | '-' :: 'i' :: ' ' :: rest =>
      grepFlags fuel { g with ignoreCase := true, pattern := Blank.trimStart rest }
    | _ => g

def grep (rest : List Char) : Except Fault Op :=
  let g := grepFlags rest.length ⟨false, false, rest⟩
  if g.pattern.isEmpty then .error (.of "grep needs a pattern")
  else .ok (.grep (String.ofList g.pattern) g.invert g.ignoreCase)

def quoted (s : String) : String := "\x60" ++ s ++ "\x60"

/-- Reads one instruction; `at'` is the place that messages begin with. -/
def instruction (at' word : String) (rest : List Char) : Except Fault Instruction :=
  let text := String.ofList rest
  let refuse (message : String) : Except Fault Instruction :=
    .error (.of (at' ++ ": " ++ message))
  match word with
  | "map" =>
    match Transform.named? text with
    | some t => .ok (.op (.map t))
    | none => refuse ("unknown transform " ++ quoted text)
  | "grep" =>
    match grep rest with
    | .ok o => .ok (.op o)
    | .error fault => .error (fault.within at')
  | "head" =>
    match Numeral.parse text with
    | .ok n => .ok (.op (.head n))
    | .error flaw => .error ((Fault.of flaw.message).within (at' ++ ": head needs a line count"))
  | "number" => .ok (.op .number)
  | "prefix" => .ok (.op (.lead text))
  | "cat" => .ok .cat
  | "count" => .ok .count
  | "emit" => .ok (.action (.emit text))
  | "fail" => .ok (.action (.fail text))
  | "tee" =>
    if rest.isEmpty then refuse ("unknown instruction " ++ quoted word)
    else .ok (.op (.tee text))
  | "read" =>
    if rest.isEmpty then refuse ("unknown instruction " ++ quoted word)
    else .ok (.action (.read text))
  | "write" =>
    let (path, text) := (Blank.splitOnce? rest).getD (rest, [])
    if path.isEmpty then refuse "write needs a path"
    else .ok (.action (.write (String.ofList path) (String.ofList (Blank.trimStart text))))
  | _ => refuse ("unknown instruction " ++ quoted word)

/-- Steps and the open chain, both last first. -/
structure Draft where
  steps : List Step
  chain : List Op

namespace Draft

def empty : Draft := ⟨[], []⟩

/-- Ends the open chain, if there is one. -/
def flush (d : Draft) : Draft :=
  if d.chain.isEmpty then d else ⟨.filter d.chain.reverse false :: d.steps, []⟩

/-- `cat` only matters where no chain is open: there it copies the input by itself. -/
def add (d : Draft) : Instruction → Draft
  | .op o => { d with chain := o :: d.chain }
  | .cat => if d.chain.isEmpty then { d with steps := .filter [] false :: d.steps } else d
  | .count => ⟨.filter d.chain.reverse true :: d.steps, []⟩
  | .action s => let d := d.flush; { d with steps := s :: d.steps }

end Draft

/-- Lines from the given number on. -/
def readLines (name : String) : Nat → Draft → List (List Char) → Except Fault Draft
  | _, d, [] => .ok d
  | number, d, line :: rest =>
    let line := Blank.trimEnd (Blank.trimStart line)
    if line.isEmpty || line.head? == some '#' then readLines name (number + 1) d rest
    else
      let (word, text) := splitWord line
      match instruction s!"{name}: line {number}" word text with
      | .ok i => readLines name (number + 1) (d.add i) rest
      | .error fault => .error fault

def parse (name source : String) : Except Fault Script :=
  match readLines name 1 .empty (Lines.ofText source) with
  | .ok d => .ok ⟨name, d.flush.steps.reverse⟩
  | .error fault => .error fault

def compile (name : String) (source : Bytes) : Except Fault Script :=
  match Utf8.decode? source with
  | .ok text => parse name text
  | .error flaw => .error ((Fault.of flaw.message).within "filter script is not valid UTF-8")

end Pipework.Script
