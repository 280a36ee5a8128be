import Pipework.Dict

/-!
# Settings

What the program can be told by its settings file, its environment and its options. Everything
has a default.
-/

namespace Pipework

structure Settings.Logging where
  enabled : Bool
  console : Bool
  file : Bool
  /-- Which messages are kept, as filter directives. -/
  level : String
  directory : Option String
  deriving DecidableEq, Repr

structure Settings.Pipeline where
  /-- Stages may work alongside each other. -/
  streaming : Bool
  /-- How many bytes the channel of a stage holds. -/
  capacity : Nat
  /-- The snapshot of a failing stage is taken over too. -/
  mergeOnError : Bool
  /-- How many bytes of stack a concurrent stage gets. -/
  stackSize : Nat
  deriving DecidableEq, Repr

structure Settings.Commands where
  modulesDir : Option String
  aliases : Dict String
  deriving DecidableEq, Repr

structure Settings where
  logging : Settings.Logging
  pipeline : Settings.Pipeline
  commands : Settings.Commands
  deriving DecidableEq, Repr

namespace Settings

def Logging.default : Logging := ⟨true, true, false, "warn", none⟩

def Pipeline.default : Pipeline := ⟨true, 8192, true, 2097152⟩

def Commands.default : Commands := ⟨none, []⟩

def default : Settings := ⟨.default, .default, .default⟩

end Settings

end Pipework
