import Pipework.Run.Basic

/-!
# Schedules

A run goes on by choices: a host does one act, an event is handled, a typed line is handed out, a
kill is requested or carried out. Any list of choices is a schedule. `drive` follows one fair
schedule: what is to be handled comes first, and hosts take turns otherwise.
-/

namespace Pipework

namespace Run

inductive Choice where
  | work (index : Nat)
  | event
  | line
  | requestKill
  | kill
  deriving DecidableEq, Repr

variable {P F : Type} [Program P] [Filesystem F]

/-- No host is at work that keeps everything else waiting. -/
def isSettled (r : Run P F) : Bool := r.resident.all fun h => !h.blocksOthers

/-- Whether a typed line or the end of them can be handed out, or is to be asked for. -/
def lineReady (r : Run P F) : Bool :=
  match r.reading, r.session.input with
  | .due, some _ => true
  | .waiting, some source => source.take?.isSome
  | _, _ => false

def setInput (r : Run P F) (source : LineSource) : Run P F :=
  { r with session := { r.session with input := some source } }

/-- Asks the source for a line. An open source without lines keeps the run waiting. -/
def stepLine (r : Run P F) : Run P F :=
  match r.session.input with
  | none => r
  | some source =>
    let source := if r.reading = .due then source.ask else source
    match source.take? with
    | some (line, source) =>
      ((({ r with reading := .idle }.setInput source).record [.lineRead line]).onLine line).takeUp
    | none => { r with reading := .waiting }.setInput source

def stepWork (index : Nat) (r : Run P F) : Run P F :=
  match r.host? index with
  | none => r
  | some h =>
    match h.step with
    | none => r
    | some (h, events) => (r.setHost h).post index events

def stepEvent (ctx : Setting P) (r : Run P F) : Run P F :=
  match r.mailbox.take? with
  | none => r
  | some ((index, e), mailbox) => (onEvent ctx index e { r with mailbox := mailbox }).takeUp

/-- One choice; nothing happens where it is not open. A requested kill comes before any event, and
events come before typed lines. -/
def step (ctx : Setting P) (r : Run P F) : Choice → Run P F
  | .work index => if r.active then r.stepWork index else r
  | .requestKill => { r with killRequested := true }
  | .kill => if r.active && r.isSettled && r.killRequested then r.kill else r
  | .event => if r.active && r.isSettled && !r.killRequested then r.stepEvent ctx else r
  | .line =>
    if r.active && r.isSettled && !r.killRequested && r.mailbox.isEmpty && r.lineReady then
      r.stepLine
    else r

def steps (ctx : Setting P) (r : Run P F) (choices : List Choice) : Run P F :=
  choices.foldl (step ctx) r

/-- What is to be done next: nothing when the run is over or every host waits for ever. -/
def nextChoices (r : Run P F) : List Choice :=
  if !r.active then []
  else
    match r.resident.find? Host.blocksOthers with
    | some h => [.work h.index]
    | none =>
      if r.killRequested then [.kill]
      else if !r.mailbox.isEmpty then [.event]
      else if r.lineReady then [.line]
      else (r.resident.filter Host.canStep).map fun h => .work h.index

/-- Follows the fair schedule for at most `turns` turns; `watch` may intervene after each. -/
def drive (ctx : Setting P) (watch : Run P F → Run P F) : Nat → Run P F → Run P F
  | 0, r => r
  | turns + 1, r =>
    match r.nextChoices with
    | [] => r
    | choices => drive ctx watch turns (watch (r.steps ctx choices))

/-- Carries a new run through. -/
def execute (ctx : Setting P) (watch : Run P F → Run P F) (turns : Nat) (r : Run P F) : Run P F :=
  drive ctx watch turns (watch ((watch (r.prepare ctx)).activate ctx))

end Run

end Pipework
