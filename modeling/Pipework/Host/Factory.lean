import Pipework.Effect
import Pipework.Host.Basic

/-!
# Host factories

A factory makes hosts. Concurrent hosts need an image, which is fetched from the source when the
first of them is made and kept for all later ones; a failed fetch keeps nothing.
-/

namespace Pipework

/-- Where images come from. Fetches are numbered from nought, and each may turn out differently. -/
structure Source where
  description : String
  fetch : Nat → Except Fault Image

structure Factory where
  source : Option Source
  sharedMemory : Bool
  capacity : Nat
  image : Option Image
  /-- Fetches tried, and fetches that gave an image. -/
  attempts : Nat
  fetches : Nat

namespace Factory

def make (source : Option Source) (sharedMemory : Bool) (capacity : Nat) : Factory :=
  ⟨source, sharedMemory, max capacity 1, none, 0, 0⟩

def inlineOnly : Factory := make none false Channel.defaultCapacity

def resetCache (f : Factory) : Factory := { f with image := none }

def preparing : String := "[INFO] Preparing the stage execution context (this happens once)..."

/-- The kept image, or a fresh one. -/
def provide (f : Factory) (console : Console) :
    List Effect × Factory × Except Failure Image :=
  match f.image, f.source with
  | some image, _ => ([], f, .ok image)
  | none, none => ([], f, .error (.noHost "no execution context source configured"))
  | none, some source =>
    let effects := console.status preparing ++ console.clearStatus
    let f := { f with attempts := f.attempts + 1 }
    match source.fetch (f.attempts - 1) with
    | .ok image => (effects, { f with image := some image, fetches := f.fetches + 1 }, .ok image)
    | .error why =>
      (effects, f, .error (.noHost ("fetching " ++ source.description ++ " failed: " ++ why.full)))

variable {P : Type} [Program P]

def spawn (f : Factory) (console : Console) (index : Nat) (stage : Stage P) (files : Snapshot) :
    List Effect × Factory × Except Failure (Host P) :=
  match Host.kindFor stage.executable f.sharedMemory with
  | .inline => ([], f, .ok (.inline index stage files))
  | .concurrent =>
    match f.provide console with
    | (effects, f, .ok image) =>
      (effects, f, .ok (.concurrent index stage files f.capacity image))
    | (effects, f, .error why) => (effects, f, .error why)

end Factory

end Pipework
