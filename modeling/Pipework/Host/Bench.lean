import Pipework.Host.Factory
import Pipework.Run.Mailbox

/-!
# Benches

On a bench hosts are driven by hand, without a pipeline around them. All of them report to one
queue, and what is done is done to the host that was made last. Hosts that keep everything else
waiting are carried through at once, others only while an event is waited for.
-/

namespace Pipework

structure Bench (P : Type) [Program P] where
  factory : Factory
  console : Console
  /-- Hosts, last made first. -/
  hosts : List (Host P)
  queue : Mailbox (Nat × StageEvent)
  effects : List Effect
  /-- What callbacks were called with, last first. -/
  calls : List Callback.Call

/-- What can be waited for. -/
inductive Bench.Awaited where
  | data
  | input
  | closing
  deriving DecidableEq, Repr

def Bench.Awaited.accepts : Bench.Awaited → StageEvent → Bool
  | .data, .data _ => true
  | .input, .wantsInput => true
  | .closing, .ended _ | .closing, .failed .. => true
  | _, _ => false

namespace Bench

variable {P : Type} [Program P]

def new (factory : Factory) (console : Console) : Bench P := 
  ⟨factory, console, [], .empty, [], []⟩

def last? (b : Bench P) : Option (Host P) := b.hosts.head?

/-- Puts a changed host in the place of the last one. -/
def setLast (b : Bench P) (h : Host P) : Bench P := { b with hosts := h :: b.hosts.drop 1 }

def post (b : Bench P) (index : Nat) (events : List StageEvent) : Bench P :=
  { b with queue := b.queue.post (events.map (index, ·)) }

def spawn (b : Bench P) (index : Nat) (stage : Stage P) (files : Snapshot) :
    Except Failure (Host P) × Bench P :=
  let (effects, factory, host) := b.factory.spawn b.console index stage files
  let b := { b with factory := factory, effects := b.effects ++ effects }
  match host with
  | .ok h => (.ok h, { b with hosts := h :: b.hosts })
  | .error why => (.error why, b)

def resetCache (b : Bench P) : Bench P := { b with factory := b.factory.resetCache }

/-- Carries a host through while nothing else may be handled. -/
def settle : Nat → Host P → List StageEvent → Host P × List StageEvent
  | 0, h, events => (h, events)
  | turns + 1, h, events =>
    if h.blocksOthers then
      match h.step with
      | some (h, more) => settle turns h (more.reverse ++ events)
      | none => (h, events)
    else (h, events)

/-- Starts a host with its first input. -/
def start (b : Bench P) (turns : Nat) (h : Host P) (input : Option Bytes) :
    Option Failure × Bench P :=
  let calls := (h.call? input).toList ++ b.calls
  let (h, events, why) := h.start b.calls input
  let (h, events) := settle turns h events.reverse
  (why, { (b.setLast h).post h.index events.reverse with calls := calls })

/-- One act of every host that can go on. -/
def stepHosts : List (Host P) → List (Host P) × List (Nat × StageEvent)
  | [] => ([], [])
  | h :: rest =>
    let (rest, events) := stepHosts rest
    match h.step with
    | some (h, more) => (h :: rest, events ++ more.map (h.index, ·))
    | none => (h :: rest, events)

/-- The events up to the first that is waited for, and those behind it. -/
def cut (kind : Awaited) : List (Nat × StageEvent) →
    Option (List (Nat × StageEvent) × List (Nat × StageEvent))
  | [] => none
  | e :: rest =>
    if kind.accepts e.2 then some ([e], rest)
    else (cut kind rest).map fun (before, behind) => (e :: before, behind)

/-- Takes all events queued. -/
def drain (b : Bench P) : List (Nat × StageEvent) × Bench P :=
  (b.queue.toList, { b with queue := .empty })

/-- Lets the hosts work until an event of the kind is there; takes it and those before it. -/
def wait (kind : Awaited) : Nat → Bench P → Option (List (Nat × StageEvent) × Bench P)
  | 0, _ => none
  | turns + 1, b =>
    match cut kind b.queue.toList with
    | some (taken, behind) => some (taken, { b with queue := ⟨behind, []⟩ })
    | none =>
      let (hosts, events) := stepHosts b.hosts
      wait kind turns { b with hosts := hosts, queue := b.queue.post events }

end Bench

end Pipework
