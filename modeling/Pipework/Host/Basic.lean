import Pipework.Channel.Basic
import Pipework.Outcome
import Pipework.Stage

/-!
# Hosts

A host runs one stage and reports what happens as events. An inline host gives its stage the whole
input at once and is at work until the stage has ended. A concurrent host feeds its stage through a
channel and works alongside the others; whenever a read has to wait it asks for input first, and the
stage goes on when its channel wakes it.
Both report a changed snapshot at the end, however the stage ends.
-/

namespace Pipework

/-- What a stage reports. Snapshots are there only when they differ from the one it was given. -/
inductive StageEvent where
  | data (bytes : Bytes)
  | ended (changed : Option Snapshot)
  | failed (message : String) (changed : Option Snapshot)
  | wantsInput
  deriving DecidableEq

/-- What concurrent stages run on. It may refuse to launch a stage, which is told by its label, and
an eager one runs a stage to its end while launching it. -/
structure Image where
  refusal : String → Option String
  eager : Bool

inductive Host.Kind where
  | concurrent
  | inline
  deriving DecidableEq, Repr

def Host.Kind.name : Host.Kind → String
  | .concurrent => "concurrent"
  | .inline => "in_process"

/-- Where the input of a host comes from. -/
inductive Host.Supply where
  | given (rest : Bytes)
  | channel (c : Channel) (image : Image)

/-- How far a host has come; `asked` tells whether the read it waits in has been reported. -/
inductive Host.Phase (P : Type) [Program P] where
  | ready (files : Snapshot)
  | working (task : Task P) (initial : Snapshot) (asked : Bool)
  | over

structure Host (P : Type) [Program P] where
  index : Nat
  stage : Stage P
  supply : Host.Supply
  phase : Host.Phase P
  /-- A cancelled host reports nothing any more, and its stage cannot write. -/
  cancelled : Bool
  launched : Bool

namespace Host

variable {P : Type} [Program P]

def command (h : Host P) : String := h.stage.command

def kind (h : Host P) : Kind :=
  match h.supply with
  | .given _ => .inline
  | .channel .. => .concurrent

def channel? (h : Host P) : Option Channel :=
  match h.supply with
  | .given _ => none
  | .channel c _ => some c

/-- Which kind of host a stage gets. -/
def kindFor (e : Executable P) (sharedMemory : Bool) : Kind :=
  match e, sharedMemory with
  | .program .., true => .concurrent
  | _, _ => .inline

def inline (index : Nat) (stage : Stage P) (files : Snapshot) : Host P :=
  ⟨index, stage, .given [], .ready files, false, false⟩

def concurrent (index : Nat) (stage : Stage P) (files : Snapshot) (capacity : Nat)
    (image : Image) : Host P :=
  ⟨index, stage, .channel (.empty capacity) image, .ready files, false, false⟩

def setChannel (h : Host P) (c : Channel) : Host P :=
  match h.supply with
  | .given _ => h
  | .channel _ image => { h with supply := .channel c image }

def writeInput (h : Host P) (data : Bytes) : Except Channel.Refusal (Host P) :=
  match h.supply with
  | .given _ => .ok h
  | .channel c _ => (c.write data).map h.setChannel

def closeInput (h : Host P) : Host P :=
  match h.supply with
  | .given _ => h
  | .channel c _ => h.setChannel c.close

def cancel (h : Host P) : Host P := { h with cancelled := true }

/-- An inline host is cancelled; a concurrent one also loses its channel and its place to run. -/
def terminate (h : Host P) : Host P :=
  match h.supply with
  | .given _ => h.cancel
  | .channel c _ => { h.cancel.setChannel c.terminate with launched := false }

/-- Whether the host has been set going and, if concurrent, has not been terminated. -/
def isStarted (h : Host P) : Bool :=
  match h.kind, h.phase with
  | .concurrent, _ => h.launched
  | .inline, .ready _ => false
  | .inline, _ => true

/-- An event, unless the host is cancelled. -/
def report (h : Host P) (e : StageEvent) : List StageEvent := if h.cancelled then [] else [e]

/-- The snapshot as the end of a stage reports it. -/
def changed (initial files : Snapshot) : Option Snapshot :=
  if files = initial then none else some files

/-- The closing event of a stage. -/
def closing (verdict : Verdict) (initial files : Snapshot) : StageEvent :=
  match verdict.message? with
  | none => .ended (changed initial files)
  | some message => .failed message (changed initial files)

/-! ## Starting -/

def label (h : Host P) : String := s!"stage-{h.index}-{h.command}"

def invocation (h : Host P) (files : Snapshot) : Invocation := h.stage.invocation files

/-- The call that a start with this input makes. -/
def call? (h : Host P) (input : Option Bytes) : Option Callback.Call :=
  match h.phase with
  | .ready files => h.stage.call? files (input.getD [])
  | .working .. | .over => none

/-- A callback runs at once; its output has a newline behind it. -/
def callEvents (result : Except Fault (Option String)) (initial files : Snapshot) :
    List StageEvent :=
  match result with
  | .ok (some text) =>
    [.data (Utf8.encode (text ++ "\n")), closing .done initial files]
  | .ok none => [closing .done initial files]
  | .error why => [closing (.failed why) initial files]

def startInline (h : Host P) (past : List Callback.Call) (files : Snapshot) (input : Bytes) :
    Host P × List StageEvent :=
  match h.stage.executable with
  | .callback c =>
    let (result, after) := c past (h.invocation files) (Utf8.decodeLossy input)
    ({ h with phase := .over }, (callEvents result files after).flatMap h.report)
  | .program p _ =>
    ({ h with
        supply := .given input
        phase := .working (.start p (h.invocation files)) files false }, [])

/-- Puts the program of a fed host to work, if the image takes it. -/
def launch (h : Host P) (image : Image) (p : P) (files : Snapshot) : Host P × Option Failure :=
  match image.refusal h.label with
  | some message =>
    ({ h with phase := .over }, some (.broken h.command ("launch failed: " ++ message)))
  | none =>
    ({ h with
        phase := .working (.start p (h.invocation files)) files false
        launched := true }, none)

def startConcurrent (h : Host P) (image : Image) (p : P) (files : Snapshot)
    (input : Option Bytes) : Host P × Option Failure :=
  match input with
  | none => h.launch image p files
  | some data =>
    match h.writeInput data with
    | .ok h => h.launch image p files
    | .error why => ({ h with phase := .over }, some (.broken h.command why.message))

/-- Sets a host going with the input gathered for it; a second start does nothing. A host that
could not be started does not run at all. -/
def start (h : Host P) (past : List Callback.Call) (input : Option Bytes) :
    Host P × List StageEvent × Option Failure :=
  match h.phase with
  | .working .. | .over => (h, [], none)
  | .ready files =>
    match h.supply, h.stage.executable with
    | .channel _ image, .program p _ =>
      let (h, why) := h.startConcurrent image p files input
      (h, [], why)
    | _, _ =>
      let (h, events) := h.startInline past files (input.getD [])
      (h, events, none)

/-! ## Working -/

/-- Whether nothing else may be handled until this host has ended. -/
def blocksOthers (h : Host P) : Bool :=
  match h.phase, h.supply with
  | .working .., .given _ => true
  | .working _ _ asked, .channel _ image => image.eager && !asked
  | _, _ => false

/-- A host at work can go on unless its stage waits at the channel. -/
def canStep (h : Host P) : Bool :=
  match h.phase, h.supply with
  | .working .., .given _ => true
  | .working .., .channel c _ => !c.waiting
  | _, _ => false

def terminated : Fault := .of Channel.Refusal.terminated.message

def cannotWrite : Fault := .of "stage terminated"

/-- One act of the stage. There is none while it is not at work or waits at its channel. -/
def step (h : Host P) : Option (Host P × List StageEvent) :=
  match h.phase with
  | .ready _ | .over => none
  | .working task initial asked =>
    match task.act with
    | .silent next => some ({ h with phase := .working next initial asked }, [])
    | .write data answer =>
      if data.isEmpty then
        some ({ h with phase := .working (answer (.ok ())) initial asked }, [])
      else if h.cancelled then
        some ({ h with phase := .working (answer (.error cannotWrite)) initial asked }, [])
      else some ({ h with phase := .working (answer (.ok ())) initial asked }, [.data data])
    | .finish verdict files =>
      some ({ h with phase := .over }, h.report (closing verdict initial files))
    | .read limit answer =>
      match h.supply with
      | .given rest =>
        some ({ h with
          supply := .given (rest.drop limit)
          phase := .working (answer (.ok (rest.take limit))) initial asked }, [])
      | .channel c image =>
        if c.waiting then none
        else
          match c.read limit with
          | .bytes data c =>
            some ({ h with
              supply := .channel c image
              phase := .working (answer (.ok data)) initial false }, [])
          | .refused _ =>
            some ({ h with phase := .working (answer (.error terminated)) initial false }, [])
          | .blocked =>
            some ({ h with
              supply := .channel c.await image
              phase := .working task initial true },
              if asked then [] else h.report .wantsInput)

end Host

end Pipework
