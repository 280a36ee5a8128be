import Pipework.Stage
import Pipework.Text.Blank
import Pipework.Text.Lines

/-!
# Built-in commands

Commands that every catalogue knows. Their result is printed with a newline behind it, so the one
that a text already ends in is taken off first.
-/

namespace Pipework

inductive Builtin where
  | cat
  | clear
  | echo
  | env
  | failure
  | hello
  | ls
  | rm
  | tee
  | success
  | wc
  deriving DecidableEq, Repr

namespace Builtin

def all : List Builtin :=
  [.cat, .clear, .echo, .env, .failure, .hello, .ls, .rm, .tee, .success, .wc]

def name : Builtin → String
  | .cat => "cat"
  | .clear => "clear"
  | .echo => "echo"
  | .env => "env"
  | .failure => "false"
  | .hello => "hello"
  | .ls => "ls"
  | .rm => "rm"
  | .tee => "tee"
  | .success => "true"
  | .wc => "wc"

def names : List String := all.map name

def named? (name : String) : Option Builtin := all.find? (·.name = name)

/-- The text as a result: less one newline at its end, and nothing when that leaves nothing. -/
def output (text : String) : Option String :=
  let cs := text.toList
  let cs := if cs.getLast? = some '\n' then cs.dropLast else cs
  if cs.isEmpty then none else some (String.ofList cs)

def missing (path : String) : Fault := .of (path ++ ": No such file or directory")

/-- The contents of all paths, one behind the other. -/
def contents (files : Snapshot) : List String → Except Fault String
  | [] => .ok ""
  | path :: rest =>
    match Snapshot.read? files path with
    | none => .error (missing path)
    | some content => (contents files rest).map (content ++ ·)

/-- The counts that the options ask for, in their order. -/
def picked (lines words bytes : Nat) : List String → Except Fault (List Nat)
  | [] => .ok []
  | option :: rest =>
    match option with
    | "-l" => (picked lines words bytes rest).map (lines :: ·)
    | "-w" => (picked lines words bytes rest).map (words :: ·)
    | "-c" => (picked lines words bytes rest).map (bytes :: ·)
    | other => .error (.of ("invalid option " ++ other))

def count (options : List String) (input : String) : Except Fault String :=
  let lines := (Lines.ofText input).length
  let words := (Blank.fields input).length
  let bytes := input.utf8ByteSize
  match picked lines words bytes options with
  | .error why => .error why
  | .ok chosen =>
    let chosen := if chosen.isEmpty then [lines, words, bytes] else chosen
    .ok (" ".intercalate (chosen.map toString))

/-- Stores the input under every path; from `-a` on it goes behind what is there already. -/
def store (input : String) (append : Bool) : Snapshot → List String → Except Fault Unit × Snapshot
  | files, [] => (.ok (), files)
  | files, arg :: rest =>
    if arg = "-a" then store input true files rest
    else
      let old := if append then (Snapshot.read? files arg).getD "" else ""
      match Snapshot.write files arg (old ++ input) with
      | .ok files => store input append files rest
      | .error why => (.error why, files)

/-- Removes the paths in order up to the first that is not there. -/
def removeAll : Snapshot → List String → Except Fault (Option String) × Snapshot
  | files, [] => (.ok none, files)
  | files, path :: rest =>
    match Snapshot.remove files path with
    | (some _, files) => removeAll files rest
    | (none, files) =>
      (.error (.of ("cannot remove '" ++ path ++ "': No such file or directory")), files)

/-- The paths of a snapshot that start with a text, one on a line. -/
def listing (files : Snapshot) (start : String) : Option String :=
  match files with
  | .object fields =>
    let paths := (Dict.keys fields).filter fun path => start.toList.isPrefixOf path.toList
    output ("\n".intercalate paths)
  | _ => none

def run (b : Builtin) (inv : Invocation) (input : String) :
    Except Fault (Option String) × Snapshot :=
  let operands := inv.args.drop 1
  let keep (result : Except Fault (Option String)) := (result, inv.files)
  match b with
  | .echo => keep (.ok (some (" ".intercalate operands)))
  | .hello => keep (.ok (some "Hello World!"))
  | .clear => keep (.ok (some "\x1b[2J\x1b[H"))
  | .success => keep (.ok none)
  | .failure => keep (.error (.of "exit status 1"))
  | .wc => keep ((count operands input).map some)
  | .cat =>
    if operands.isEmpty then keep (.ok (output input))
    else keep ((contents inv.files operands).map output)
  | .tee =>
    match store input false inv.files operands with
    | (.ok (), files) => (.ok (output input), files)
    | (.error why, files) => (.error why, files)
  | .ls => keep (.ok (listing inv.files (operands.headD "")))
  | .rm => if operands.isEmpty then keep (.error (.of "missing operand")) else removeAll inv.files operands
  | .env =>
    keep (.ok (output ("\n".intercalate (inv.env.map fun (key, value) => key ++ "=" ++ value))))

/-- A built-in remembers nothing. -/
def callback (b : Builtin) : Callback := fun _ => b.run

end Builtin

end Pipework
