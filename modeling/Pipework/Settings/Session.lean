import Pipework.Catalogue.Basic
import Pipework.CommandLine.Parse
import Pipework.Run.Basic
import Pipework.Settings.Basic

/-!
# What settings stand for

The catalogue, the host factory and the run setting that settings describe.
-/

namespace Pipework

/-- Stages on threads of their own: an image is always there, and launching never fails. -/
def Source.threads (stackSize : Nat) : Source where
  description := s!"thread worker (stack {stackSize} bytes)"
  fetch _ := .ok ⟨fun _ => none, false⟩

namespace Settings

def catalogue (s : Settings) : Catalogue := ⟨s.commands.modulesDir, s.commands.aliases⟩

def factory (s : Settings) : Factory :=
  if s.pipeline.streaming then
    .make (some (.threads s.pipeline.stackSize)) true s.pipeline.capacity
  else .inlineOnly

variable {P : Type}

def resolver (s : Settings) (compile : Compiler P) (disk : Disk) (console : Console) : Resolver P :=
  ⟨fun _ => s.catalogue.find compile disk, some compile, console⟩

def setting (s : Settings) (compile : Compiler P) (disk : Disk) (console : Console) : Setting P :=
  ⟨fun line => (CommandLine.parse line).mapError fun why => .of why.message,
    s.resolver compile disk console, s.pipeline.mergeOnError⟩

end Settings

end Pipework
