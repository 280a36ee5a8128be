/-!
# Faults

A fault is a root cause with the contexts it was reported under. Its short message is the
outermost of them, its full message the whole chain from the outside in.
-/

namespace Pipework

structure Fault where
  /-- Contexts, outermost first. -/
  contexts : List String
  root : String
  deriving DecidableEq, Repr, Inhabited

namespace Fault

def of (message : String) : Fault := ⟨[], message⟩

def within (context : String) (f : Fault) : Fault := { f with contexts := context :: f.contexts }

def short (f : Fault) : String := f.contexts.headD f.root

def full (f : Fault) : String := ": ".intercalate (f.contexts ++ [f.root])

end Fault

end Pipework
