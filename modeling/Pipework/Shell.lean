import Pipework.Run.Schedule
import Pipework.Text.Blank

/-!
# Shells

A shell reads command lines and carries them out one after another in one session. The stages of a
running line read from the same source: whatever lines they take, the shell goes on behind them.
-/

namespace Pipework

structure Shell (P : Type) where
  setting : Setting P
  prompt : Option String

/-- What a line tells a shell, once the blanks around it are taken off. -/
inductive Shell.Entry where
  | blank
  | exit
  | command (line : String)
  deriving DecidableEq, Repr

def Shell.Entry.ofLine (line : String) : Shell.Entry :=
  match Blank.trim line with
  | "" => .blank
  | "exit" => .exit
  | text => .command text

namespace Shell

variable {P F : Type} [Program P] [Filesystem F]

def console (s : Shell P) : Console := s.setting.console

/-- Carries one line out for at most so many turns. -/
def carryOut (s : Shell P) (turns : Nat) (line : String) (session : Session F) : Run P F :=
  Run.execute s.setting id turns (.new line session)

def exitCode (r : Run P F) : Nat := (r.report.map (·.outcome.exitCode)).getD 0

/-- Shows the prompt and takes a line. The end of input comes as no line. -/
def takeLine (s : Shell P) (session : Session F) : Option String × Session F :=
  let session := session.record ((s.prompt.map s.console.print).getD [])
  match session.input >>= LineSource.take? with
  | none => (none, session)
  | some (line, source) =>
    (line, { session with input := some source }.record [.lineRead line])

/-- Reads and carries out at most so many lines; `code` is that of the last command. -/
def readLines (s : Shell P) (turns : Nat) : Nat → Nat → Session F → Nat × Session F
  | 0, code, session => (code, session)
  | count + 1, code, session =>
    match s.takeLine session with
    | (none, session) => (code, session)
    | (some line, session) =>
      match Entry.ofLine line with
      | .blank => readLines s turns count code session
      | .exit => (code, session)
      | .command line =>
        let r := s.carryOut turns line session
        readLines s turns count (exitCode r) r.session

/-- Carries out lines up to the end of input or `exit`. Every entry takes a line, so one more round
than there are lines is enough. -/
def interact (s : Shell P) (turns : Nat) (session : Session F) : Nat × Session F :=
  readLines s turns ((session.input.map (·.lines.length)).getD 0 + 1) 0 session

end Shell

end Pipework
