import Pipework.Dict

/-!
# Command trees

A command holds its words, its environment and its redirects. A pipeline is one command whose
first redirect is a pipe into the next; `chain` lists the commands that follow each other so, and
`pipeInto` hangs a command at the tail.
-/

namespace Pipework

mutual
inductive Command where
  | mk (name : String) (args : List String) (env : Dict String) (redirects : Redirects)

inductive Redirects where
  | nil
  | pipe (next : Command) (rest : Redirects)
  | file (operator target : String) (rest : Redirects)
end

deriving instance DecidableEq for Command, Redirects

/-- A top-level statement: a command, or a construct that is named and not run. -/
inductive Statement where
  | command (c : Command)
  | unsupported (construct : String)
  deriving DecidableEq

namespace Redirects

def append : Redirects → Redirects → Redirects
  | .nil, other => other
  | .pipe next rest, other => .pipe next (rest.append other)
  | .file op target rest, other => .file op target (rest.append other)

end Redirects

namespace Command

def name : Command → String
  | .mk name _ _ _ => name

def args : Command → List String
  | .mk _ args _ _ => args

def env : Command → Dict String
  | .mk _ _ env _ => env

def redirects : Command → Redirects
  | .mk _ _ _ redirects => redirects

/-- The command and its arguments as one list of words. -/
def words (c : Command) : List String := c.name :: c.args

/-- The command that this one pipes into: its first redirect, if that is a pipe. -/
def piped? (c : Command) : Option Command :=
  match c.redirects with
  | .pipe next _ => some next
  | _ => none

/-- The command and those reached by following first redirects that are pipes. -/
def chain : Command → List Command
  | .mk name args env (.pipe next rest) => .mk name args env (.pipe next rest) :: next.chain
  | .mk name args env redirects => [.mk name args env redirects]

/-- Adds a pipe into `tail` behind the redirects of the last command of the chain. -/
def pipeInto : Command → Command → Command
  | .mk name args env (.pipe next rest), tail =>
    .mk name args env (.pipe (next.pipeInto tail) rest)
  | .mk name args env redirects, tail =>
    .mk name args env (redirects.append (.pipe tail .nil))

end Command

end Pipework
