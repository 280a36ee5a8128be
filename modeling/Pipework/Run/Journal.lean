import Pipework.Host.Basic

/-!
# Journals

A run keeps a journal of what passes between it and its stages: which stage was set going with
which input, which events were handled, and what was written to the channel of a stage. Nothing a
run does depends on it. Notes are kept last first.
-/

namespace Pipework

namespace Run

inductive Note where
  | started (index : Nat) (input : Option Bytes)
  | handled (index : Nat) (e : StageEvent)
  | written (index : Nat) (data : Bytes)
  | refused (index : Nat) (data : Bytes) (why : Channel.Refusal)
  deriving DecidableEq

abbrev Journal := List Note

namespace Journal

/-- Stages set going, earliest first. -/
def started (j : Journal) : List Nat :=
  (j.filterMap fun
    | .started index _ => some index
    | _ => none).reverse

/-- Whether the end of a stage has been handled. -/
def hasEnded (index : Nat) (j : Journal) : Bool :=
  j.any fun
    | .handled k (.ended _) => k == index
    | _ => false

/-- What a stage put out while the stage behind it had not ended, as far as it was handled. -/
def sent (index : Nat) : Journal → Bytes
  | [] => []
  | .handled k (.data bytes) :: past =>
    if k = index ∧ !hasEnded (index + 1) past then sent index past ++ bytes else sent index past
  | _ :: past => sent index past

/-- What a stage was given: the input it was set going with and all later writes. -/
def given (index : Nat) : Journal → Bytes
  | [] => []
  | .started k input :: past =>
    if k = index then given index past ++ input.getD [] else given index past
  | .written k data :: past =>
    if k = index then given index past ++ data else given index past
  | _ :: past => given index past

end Journal

end Run

end Pipework
