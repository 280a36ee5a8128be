import Pipework.Command.Basic
import Pipework.Effect
import Pipework.Stage

/-!
# Resolving command lines

From the statements of a line to the stages of a pipeline. The commands of the chain are asked for
from the last to the first; the first fault ends it and leaves those further left unasked. Who is
asked may remember, so a request goes along with those that were made before it in the session.
-/

namespace Pipework

/-- Whom the resolver asks. An answer goes by the request and by those before it, last first. -/
structure Resolver (P : Type) where
  find : List Request → Request → Except Fault (Resolution P)
  compiler : Option (Compiler P)
  console : Console

namespace Resolver

variable {P : Type}

/-- The request for a command; the size of the screen overrides what the line says about it. -/
def request (r : Resolver P) (c : Command) : Request :=
  let env := match r.console.size with
    | some (rows, columns) =>
      (c.env.insert "LINES" (toString rows)).insert "COLUMNS" (toString columns)
    | none => c.env
  ⟨c.words, env⟩

/-- The stage that an answer stands for. -/
def stage (r : Resolver P) (name : String) (q : Request) :
    Except Fault (Resolution P) → Except Failure (Stage P)
  | .error why => .error (.unresolved name why.short)
  | .ok (.callback c) => .ok ⟨q.args, q.env, .callback c⟩
  | .ok (.stage s) => .ok s
  | .ok (.source bytes) =>
    match r.compiler with
    | none => .error (.unresolved name "no module compiler configured")
    | some compile =>
      match compile name bytes with
      | .ok p => .ok ⟨q.args, q.env, .program p bytes.length⟩
      | .error why => .error (.unresolved name why.short)

def command (r : Resolver P) (past : List Request) (c : Command) :
    List Effect × Except Failure (Stage P) :=
  let q := r.request c
  (r.console.status ("[INFO] Fetching the command " ++ c.name ++ " ...") ++
      .fetch q.args q.env :: r.console.clearStatus,
    r.stage c.name q (r.find past q))

/-- Stages of a chain, earliest first; the last command is asked for first. -/
def chain (r : Resolver P) (past : List Request) :
    List Command → List Effect × Except Failure (List (Stage P))
  | [] => ([], .ok [])
  | c :: rest =>
    match r.chain past rest with
    | (effects, .error why) => (effects, .error why)
    | (effects, .ok stages) =>
      match r.command (rest.map r.request ++ past) c with
      | (more, .error why) => (effects ++ more, .error why)
      | (more, .ok stage) => (effects ++ more, .ok (stage :: stages))

/-- A line must be a single command. -/
def statements (r : Resolver P) (past : List Request) :
    List Statement → List Effect × Except Failure (List (Stage P))
  | [] => ([], .error (.unreadable "No command given"))
  | [.command c] => r.chain past c.chain
  | [.unsupported construct] =>
    ([], .error (.unreadable ("Only commands allowed (got " ++ construct ++ ")")))
  | _ => ([], .error (.unreadable "Only one command permitted"))

end Resolver

end Pipework
