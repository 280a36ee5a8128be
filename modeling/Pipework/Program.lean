import Pipework.Fault
import Pipework.LineBuffer
import Pipework.Snapshot

/-!
# Programs

A program is a machine that runs in a stage. In each of its states it demands one thing of its
surroundings: a line or the rest or a piece of its input, or that some bytes be written, or to end.
The answer takes it to its next state. Demands for lines share one line buffer per run; the other
reads go past it.
-/

namespace Pipework

/-- What a program is started with. The first argument is the name of the command. -/
structure Invocation where
  args : List String
  env : Dict String
  files : Snapshot

/-- How a program ends. A panic carries its text if it has one. -/
inductive Verdict where
  | done
  | failed (why : Fault)
  | panicked (text : Option String)
  deriving DecidableEq, Repr

/-- What is reported of an end that is not a success. -/
def Verdict.message? : Verdict → Option String
  | .done => none
  | .failed why => some why.full
  | .panicked (some text) => some ("panicked: " ++ text)
  | .panicked none => some "panicked"

inductive Demand (σ : Type) where
  | line (answer : Except Fault (Option String) → σ)
  | rest (answer : Except Fault Bytes → σ)
  | piece (limit : Nat) (answer : Except Fault Bytes → σ)
  | write (data : Bytes) (answer : Except Fault Unit → σ)
  | finish (verdict : Verdict) (files : Snapshot)

namespace Demand

variable {σ τ : Type}

/-- The same demand of a machine whose states hold those of another. -/
def map (f : σ → τ) : Demand σ → Demand τ
  | .line answer => .line fun a => f (answer a)
  | .rest answer => .rest fun a => f (answer a)
  | .piece limit answer => .piece limit fun a => f (answer a)
  | .write data answer => .write data fun a => f (answer a)
  | .finish verdict files => .finish verdict files

end Demand

class Program (P : Type) where
  State : Type
  start : P → Invocation → State
  demand : State → Demand State

/-- A program of either of two kinds. -/
instance {P Q : Type} [Program P] [Program Q] : Program (P ⊕ Q) where
  State := Program.State P ⊕ Program.State Q
  start
    | .inl p, inv => .inl (Program.start p inv)
    | .inr q, inv => .inr (Program.start q inv)
  demand
    | .inl s => (Program.demand s).map .inl
    | .inr s => (Program.demand s).map .inr

/-! ## Tasks -/

/-- A program at work, with its line buffer and what it has gathered of the rest of its input. -/
structure Task (P : Type) [Program P] where
  state : Program.State P
  lines : LineBuffer
  gathered : Bytes

/-- One thing that a task does: it goes on by itself, reads once, writes once, or ends. -/
inductive Act (P : Type) [Program P] where
  | silent (next : Task P)
  | read (limit : Nat) (answer : Except Fault Bytes → Task P)
  | write (data : Bytes) (answer : Except Fault Unit → Task P)
  | finish (verdict : Verdict) (files : Snapshot)

namespace Task

variable {P : Type} [Program P]

def start (program : P) (inv : Invocation) : Task P :=
  ⟨Program.start program inv, .empty, []⟩

/-- The answer to a read for the next line. -/
def gotPiece (t : Task P) (answer : Except Fault (Option String) → Program.State P) :
    Except Fault Bytes → Task P
  | .ok data => { t with lines := t.lines.feed data }
  | .error why => { t with state := answer (.error why) }

/-- The answer to a read for the rest of the input. -/
def gotRest (t : Task P) (answer : Except Fault Bytes → Program.State P) :
    Except Fault Bytes → Task P
  | .ok [] => { t with state := answer (.ok t.gathered), gathered := [] }
  | .ok data => { t with gathered := t.gathered ++ data }
  | .error why => { t with state := answer (.error why), gathered := [] }

def act (t : Task P) : Act P :=
  match Program.demand t.state with
  | .line answer =>
    match t.lines.poll with
    | .line text after => .silent { t with state := answer (.ok (some text)), lines := after }
    | .finished => .silent { t with state := answer (.ok none) }
    | .starved => .read LineBuffer.pieceLimit (t.gotPiece answer)
  | .rest answer => .read LineBuffer.pieceLimit (t.gotRest answer)
  | .piece limit answer => .read limit fun r => { t with state := answer r }
  | .write data answer => .write data fun r => { t with state := answer r }
  | .finish verdict files => .finish verdict files

end Task

end Pipework
