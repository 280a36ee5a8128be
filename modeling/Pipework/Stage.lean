import Pipework.Program

/-!
# Stages

What a pipeline is made of once its commands are resolved: words, environment and something to
execute, which is a program or a callback. A callback gets the whole input as text and gives back
at most one text. It may remember, so a call goes along with those that were made before it.
-/

namespace Pipework

/-- What a callback is called with. -/
structure Callback.Call where
  invocation : Invocation
  input : String

/-- The result of a callback and its snapshot afterwards. They go by the call and by the calls of
callbacks before it, last first; the text is the input. -/
abbrev Callback :=
  List Callback.Call → Invocation → String → Except Fault (Option String) × Snapshot

inductive Executable (P : Type) where
  | program (p : P) (size : Nat)
  | callback (c : Callback)

namespace Executable

variable {P : Type}

def isCallback : Executable P → Bool
  | .callback _ => true
  | .program .. => false

def describe : Executable P → String
  | .program _ size => s!"Module({size} bytes)"
  | .callback _ => "Callback"

end Executable

structure Stage (P : Type) where
  argv : List String
  env : Dict String
  executable : Executable P

namespace Stage

variable {P : Type}

/-- The name of the command; nothing at all for a stage without words. -/
def command (s : Stage P) : String := s.argv.headD ""

def isCallback (s : Stage P) : Bool := s.executable.isCallback

def invocation (s : Stage P) (files : Snapshot) : Invocation := ⟨s.argv, s.env, files⟩

/-- The call that is made when a stage with a callback is set going on its whole input. -/
def call? (s : Stage P) (files : Snapshot) (input : Bytes) : Option Callback.Call :=
  match s.executable with
  | .callback _ => some ⟨s.invocation files, Utf8.decodeLossy input⟩
  | .program .. => none

end Stage

/-- What a catalogue is asked: the words of a command and its environment. -/
structure Request where
  args : List String
  env : Dict String
  deriving DecidableEq

/-- What a catalogue answers: a program yet to be compiled, a callback, or a whole stage. -/
inductive Resolution (P : Type) where
  | source (bytes : Bytes)
  | callback (c : Callback)
  | stage (s : Stage P)

/-- Turns the source of a named program into the program. -/
abbrev Compiler (P : Type) := String → Bytes → Except Fault P

end Pipework
