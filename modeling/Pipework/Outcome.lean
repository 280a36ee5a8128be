import Pipework.Fault

/-!
# Failures, outcomes and exit codes

Why a run failed, how a run ended, and what the program makes of it.
-/

namespace Pipework

/-- Why a run failed. The first two arise before any stage exists. -/
inductive Failure where
  | unreadable (message : String)
  | unresolved (command message : String)
  | noHost (message : String)
  | broken (command message : String)
  | store (message : String)
  deriving DecidableEq, Repr

namespace Failure

def message : Failure → String
  | .unreadable m => m
  | .unresolved c m => c ++ ": " ++ m
  | .noHost m => "backend config error: " ++ m
  | .broken c m => c ++ ": " ++ m
  | .store m => "filesystem error: " ++ m

def kind : Failure → String
  | .unreadable _ => "pipeline.parse"
  | .unresolved .. => "pipeline.resolution"
  | .noHost _ => "pipeline.backend_config"
  | .broken .. => "pipeline.runtime"
  | .store _ => "pipeline.filesystem"

def isStartup : Failure → Bool
  | .unreadable _ | .unresolved .. => true
  | _ => false

/-- The line about a failing stage: its name and the bare cause. -/
def notice (command : String) : Failure → String
  | .broken _ m => command ++ ": " ++ m ++ "\n"
  | other => command ++ ": " ++ other.message ++ "\n"

end Failure

inductive Outcome where
  | completed
  | failed (why : Failure)
  | killed
  deriving DecidableEq, Repr

namespace Outcome

def exitCode : Outcome → Nat
  | .completed => 0
  | .failed _ => 1
  | .killed => 130

def isSuccess : Outcome → Bool
  | .completed => true
  | _ => false

def failure? : Outcome → Option Failure
  | .failed why => some why
  | _ => none

end Outcome

/-- What can stop the program as a whole. -/
inductive ProgramFault where
  | pipeline (why : Failure)
  | command (message : String)
  | settings (message : String)
  | io (message : String)
  | other (fault : Fault)
  deriving DecidableEq, Repr

namespace ProgramFault

def message : ProgramFault → String
  | .pipeline why => "pipeline failed: " ++ why.message
  | .command m => "command failed: " ++ m
  | .settings m => "config error: " ++ m
  | .io m => "io error: " ++ m
  | .other fault => "anyhow error: " ++ fault.short

def exitCode : ProgramFault → Nat
  | .settings _ => 11
  | .io _ | .command _ => 20
  | .pipeline _ | .other _ => 50

end ProgramFault

end Pipework
