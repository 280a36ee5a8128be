import Pipework.Launch

/-!
# The program

The outermost layer: it looks at the disk, reads typed lines and prints what sessions record. A run
is driven a stretch at a time, so that output appears while it is still going on.
-/

open Pipework (Bytes Dict Disk Effect FileStore Launch Run Script Session Shell)

namespace Pipework.Main

def varNames : List String :=
  ["HOME", "USERPROFILE", "CONDUIT_STREAMING", "CONDUIT_MODULES_DIR", "RUST_LOG"]

def readVars : IO (Dict String) := do
  let mut vars : Dict String := []
  for name in varNames do
    if let some value ← IO.getEnv name then
      vars := Dict.insert name value vars
  return vars

/-- What lies at a path. Reading a directory fails in a way of its own. -/
def lookAt (path : String) : IO (Option Disk.Entry) := do
  try
    return some (.file (← IO.FS.readBinFile path).toList)
  catch
    | .noFileOrDirectory .. => return none
    | .inappropriateType _ 21 _ => return some .directory
    | why => return some (.barred (toString why))

def lookAtAll (paths : List String) : IO Disk := do
  let mut entries := []
  for path in paths do
    if let some entry ← lookAt path then
      entries := (path, entry) :: entries
  return .ofList entries

/-- A typed line; nothing at the end of input or when it is no valid text. -/
def readLine : IO (Option String) := do
  try
    let line ← (← IO.getStdin).getLine
    let cs := line.toList
    if cs.isEmpty then return none
    else if cs.getLast? = some '\n' then
      return some (String.ofList (Lines.dropReturn '\r' cs.dropLast))
    else return some line
  catch _ => return none

def put (effect : Effect) : IO Unit := do
  match effect with
  | .print text =>
    let out ← IO.getStdout
    out.putStr text
    out.flush
  | .status text => IO.eprint ("\r\x1b[2K" ++ text)
  | .clearStatus => IO.eprint "\r\x1b[2K"
  | _ => return ()

/-- Shows what a session has recorded and forgets it. -/
def flush (s : Session FileStore) : IO (Session FileStore) := do
  for effect in s.effects.reverse do
    put effect
  return { s with effects := [] }

def stretch : Nat := 4096

/-- Carries a run to its end and reads the lines that it waits for. -/
partial def finish (shell : Shell Script) (r : Run Script FileStore) :
    IO (Run Script FileStore) := do
  let r := r.drive shell.setting id stretch
  let session ← flush r.session
  let r := { r with session := session }
  if !r.active then return r
  else if r.reading = .waiting then
    let line ← readLine
    finish shell (r.setInput ⟨(line.map some).toList, line.isSome, 0⟩)
  else if r.nextChoices.isEmpty then return r
  else finish shell r

def carryOut (l : Launch) (console : Console) (line : String) (session : Session FileStore) :
    IO (Run Script FileStore) := do
  let disk ← lookAtAll (l.modulePaths line)
  let shell := l.shell disk console none
  finish shell (Run.execute shell.setting id 0 (Run.new line session))

partial def interact (l : Launch) (console : Console) (prompt : String) (code : Nat)
    (session : Session FileStore) : IO Nat := do
  put (.print prompt)
  match ← readLine with
  | none => return code
  | some line =>
    match Shell.Entry.ofLine line with
    | .blank => interact l console prompt code session
    | .exit => return code
    | .command line =>
      let r ← carryOut l console line session
      interact l console prompt (Shell.exitCode r) r.session

end Pipework.Main

open Pipework.Main in
def main (words : List String) : IO UInt32 := do
  let vars ← readVars
  let disk ← lookAtAll (Launch.paths vars words)
  match Launch.ofWords ⟨vars, disk⟩ words with
  | .error why =>
    IO.print why.output
    IO.eprint why.complaint
    return UInt32.ofNat why.exitCode
  | .ok l =>
    let console : Pipework.Console := ⟨true, ← (← IO.getStderr).isTty, none⟩
    let session := l.session ⟨[], true, 0⟩
    match l.command with
    | some line =>
      let r ← carryOut l console line session
      return UInt32.ofNat (Shell.exitCode r)
    | none =>
      let prompt := if ← (← IO.getStdin).isTty then "$ " else ""
      return UInt32.ofNat (← interact l console prompt 0 session)
