import Pipework.Stage

/-!
# Command tables

A command table is a catalogue written out: for each name the answer that a request for it gets.
-/

namespace Pipework

/-- What stands under a name. A stage takes the words and the environment of the request where it
has none of its own. -/
inductive CommandTable.Entry (P : Type) where
  | fault (why : Fault)
  | source (bytes : Bytes)
  | callback (c : Callback)
  | stage (argv : Option (List String)) (env : Option (Dict String)) (e : Executable P)

abbrev CommandTable (P : Type) := Dict (CommandTable.Entry P)

namespace CommandTable

variable {P : Type}

def Entry.resolution (r : Request) : Entry P → Except Fault (Resolution P)
  | .fault why => .error why
  | .source bytes => .ok (.source bytes)
  | .callback c => .ok (.callback c)
  | .stage argv env e => .ok (.stage ⟨argv.getD r.args, env.getD r.env, e⟩)

def find (t : CommandTable P) (r : Request) : Except Fault (Resolution P) :=
  match r.args.head? >>= Dict.get? t with
  | some entry => entry.resolution r
  | none => .error (.of "command not found")

end CommandTable

end Pipework
