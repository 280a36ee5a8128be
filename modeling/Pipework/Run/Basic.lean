import Pipework.Channel.Backlog
import Pipework.Filesystem
import Pipework.Host.Factory
import Pipework.Resolve
import Pipework.Run.Journal
import Pipework.Run.Mailbox

/-!
# Runs

A run carries one command line through. Its stages are set going in order, at most two at a time:
each next one as soon as it can work alongside, else when the one before it has ended. What a stage
writes goes to the next one, or into a backlog while that one is not there yet; what the last one
writes is printed. The session around the run keeps what outlives it.
-/

namespace Pipework

/-- Lines typed in, handed out one at a time; one that is not valid text counts as an end of input
when its turn comes. While the source is open more may come. -/
structure LineSource where
  lines : List (Option String)
  isOpen : Bool
  /-- How many times a line was asked for. -/
  calls : Nat
  deriving DecidableEq, Repr

namespace LineSource

def ofList (lines : List String) (isOpen : Bool) : LineSource := ⟨lines.map some, isOpen, 0⟩

/-- All lines of an input, which has ended. -/
def ofBytes (input : Bytes) : LineSource where
  lines := (Lines.split LineBuffer.newline LineBuffer.carriageReturn input).map fun line =>
    (Utf8.decode? line).toOption
  isOpen := false
  calls := 0

def ask (s : LineSource) : LineSource := { s with calls := s.calls + 1 }

/-- The next line or the end of input; nothing while that is not known. -/
def take? (s : LineSource) : Option (Option String × LineSource) :=
  match s.lines with
  | line :: rest => some (line, { s with lines := rest })
  | [] => if s.isOpen then none else some (none, s)

end LineSource

/-- What outlives a run. Effects are kept last first. -/
structure Session (F : Type) where
  files : F
  factory : Factory
  input : Option LineSource
  effects : List Effect
  /-- What callbacks were called with, last first. -/
  calls : List Callback.Call

namespace Session

variable {F : Type}

/-- What a stage that is set going now is given of the files. -/
abbrev snapshot [Filesystem F] (s : Session F) : Snapshot := Filesystem.snapshot s.files

/-- The requests that were made in the session, last first. -/
def requests (s : Session F) : List Request := s.effects.filterMap Effect.request?

def record (s : Session F) (effects : List Effect) : Session F :=
  { s with effects := effects.reverse ++ s.effects }

def call (s : Session F) (made : Option Callback.Call) : Session F :=
  { s with calls := made.toList ++ s.calls }

end Session

/-- What a run is given and does not change. -/
structure Setting (P : Type) where
  parse : String → Except Fault (List Statement)
  resolver : Resolver P
  mergeOnError : Bool

def Setting.console {P : Type} (s : Setting P) : Console := s.resolver.console

/-- Whether a typed line is on its way: not asked for, about to be asked for, or awaited. -/
inductive Run.Reading where
  | idle
  | due
  | waiting
  deriving DecidableEq, Repr

structure Run (P F : Type) [Program P] [Filesystem F] where
  line : String
  stages : List (Stage P)
  /-- Stages that have ended. -/
  finished : List Nat
  /-- Hosts of stages that were set going and have not ended. -/
  resident : List (Host P)
  /-- Hosts that were terminated. -/
  dismissed : List (Host P)
  backlog : Backlog
  /-- All stages before this one have been spawned. -/
  nextSpawn : Nat
  active : Bool
  /-- The first stage has asked for a line and the request has not been taken up. -/
  wanted : Bool
  reading : Run.Reading
  mailbox : Mailbox (Nat × StageEvent)
  journal : Run.Journal
  killRequested : Bool
  outcome : Option Outcome
  report : Option Report
  completions : Nat
  spawned : Nat
  maxResident : Nat
  merges : Nat
  session : Session F

namespace Run

/-- How many stages may be resident at a time. -/
def window : Nat := 2

variable {P F : Type} [Program P] [Filesystem F]

def new (line : String) (session : Session F) : Run P F where
  line := line
  stages := []
  finished := []
  resident := []
  dismissed := []
  backlog := .empty
  nextSpawn := 0
  active := false
  wanted := false
  reading := .idle
  mailbox := .empty
  journal := []
  killRequested := false
  outcome := none
  report := none
  completions := 0
  spawned := 0
  maxResident := 0
  merges := 0
  session := session

def record (r : Run P F) (effects : List Effect) : Run P F :=
  { r with session := r.session.record effects }

def note (n : Note) (r : Run P F) : Run P F := { r with journal := n :: r.journal }

def stageCount (r : Run P F) : Nat := r.stages.length

def host? (r : Run P F) (index : Nat) : Option (Host P) := r.resident.find? (·.index == index)

/-- The host of a resident stage that reads from a channel. -/
def reader? (r : Run P F) (index : Nat) : Option (Host P) :=
  (r.host? index).filter (·.channel?.isSome)

def setHost (r : Run P F) (h : Host P) : Run P F :=
  { r with resident := r.resident.map fun other => if other.index = h.index then h else other }

def post (r : Run P F) (index : Nat) (events : List StageEvent) : Run P F :=
  { r with mailbox := r.mailbox.post (events.map (index, ·)) }

/-! ## Ending -/

/-- Closes the run with a report, once. -/
def complete (r : Run P F) : Run P F :=
  match r.report with
  | some _ => r
  | none =>
    let report : Report :=
      { command := r.line, outcome := r.outcome.getD .completed, total := r.stageCount,
        spawned := r.spawned, maxResident := r.maxResident, merges := r.merges }
    { r with report := some report, completions := r.completions + 1 }.record [.completed report]

/-- Terminates every resident stage. -/
def dismissAll (r : Run P F) : Run P F :=
  { r with dismissed := r.dismissed ++ r.resident.map Host.terminate, resident := [] }

/-- Ends an active run; the outcome is "killed" unless one was decided before. -/
def kill (r : Run P F) : Run P F :=
  if r.active then
    let r := r.dismissAll
    { r with
      backlog := .empty
      active := false
      outcome := some (r.outcome.getD .killed) }.complete
  else r

/-- Takes a changed snapshot over into the filesystem. One that it refuses changes nothing. -/
def merge (r : Run P F) : Option Snapshot → Run P F
  | none => r
  | some s =>
    match Filesystem.accept r.session.files s with
    | .ok files =>
      let r := r.record [.imported s none]
      { r with session := { r.session with files := files }, merges := r.merges + 1 }
    | .error why => r.record [.imported s (some why.full)]

/-- Ends an active run because a stage failed. -/
def failStage (ctx : Setting P) (command : String) (why : Failure) (changed : Option Snapshot)
    (r : Run P F) : Run P F :=
  if r.active then
    let r := r.record (ctx.console.print (why.notice command))
    let r := if ctx.mergeOnError then r.merge changed else r
    { r with outcome := some (.failed why) }.kill
  else r

/-! ## Setting stages going -/

/-- A stage can be set going while the one before it is still at work. -/
def canSpawnAhead (r : Run P F) (index : Nat) : Bool :=
  r.session.factory.sharedMemory && (r.stages[index]?).any fun s => !s.isCallback

/-- Whether no input can come any more to a stage that is just being set going. -/
def inputOver (r : Run P F) (index : Nat) : Bool :=
  match index with
  | 0 => r.session.input.isNone
  | before + 1 => r.finished.contains before

/-- Takes in a host that is under way, with what it has reported so far. -/
def takeIn (h : Host P) (events : List StageEvent) (r : Run P F) : Run P F :=
  let h := if r.inputOver h.index then h.closeInput else h
  let r := r.post h.index events
  let r := { r with resident := r.resident ++ [h] }
  { r with maxResident := max r.maxResident r.resident.length }

/-- Sets a host going that a stage was given. -/
def settle (ctx : Setting P) (h : Host P) (r : Run P F) : Run P F :=
  let (gathered, backlog) := r.backlog.take
  let past := r.session.calls
  let r :=
    { r with
      backlog := backlog
      spawned := r.spawned + 1
      session := r.session.call (h.call? gathered) }.note (.started h.index gathered)
  match h.start past gathered with
  | (h, _, some why) =>
    failStage ctx h.command why none { r with dismissed := r.dismissed ++ [h.terminate] }
  | (h, events, none) => r.takeIn h events

/-- Takes over what asking the factory for the host of a stage has brought about. -/
def equip (index : Nat) (effects : List Effect) (factory : Factory) (r : Run P F) : Run P F :=
  { r with
    nextSpawn := index + 1
    session := { r.session.record effects with factory := factory } }

def spawnStage (ctx : Setting P) (index : Nat) (r : Run P F) : Run P F :=
  match r.stages[index]? with
  | none => r
  | some stage =>
    let files := r.session.snapshot
    let (effects, factory, host) := r.session.factory.spawn ctx.console index stage files
    let r := r.equip index (.exported files :: effects) factory
    match host with
    | .ok h => r.settle ctx h
    | .error why => failStage ctx stage.command why none r

/-- Sets stages going from the given one on, as long as there is room and they may work ahead. -/
def spawnWindow (ctx : Setting P) : Nat → Nat → Run P F → Run P F
  | 0, _, r => r
  | fuel + 1, index, r =>
    if r.active && r.nextSpawn ≤ index && r.resident.length < window && index < r.stageCount then
      let r := spawnStage ctx index r
      if r.canSpawnAhead (index + 1) then spawnWindow ctx fuel (index + 1) r else r
    else r

def spawnFrom (ctx : Setting P) (index : Nat) (r : Run P F) : Run P F :=
  spawnWindow ctx r.stageCount index r

/-! ## Handling events -/

def onData (ctx : Setting P) (index : Nat) (data : Bytes) (r : Run P F) : Run P F :=
  if index + 1 = r.stageCount then r.record (ctx.console.print (Utf8.decodeLossy data))
  else if r.finished.contains (index + 1) then r
  else
    match (if r.session.factory.sharedMemory then r.reader? (index + 1) else none) with
    | some h =>
      match h.writeInput data with
      | .ok h => (r.setHost h).note (.written (index + 1) data)
      | .error why => r.note (.refused (index + 1) data why)
    | none => { r with backlog := r.backlog.append data }

/-- Room that has become free is filled if the newest stage is still at work. -/
def refill (ctx : Setting P) (r : Run P F) : Run P F :=
  let next := r.nextSpawn
  if r.active && 0 < next && !r.finished.contains (next - 1) && (r.host? (next - 1)).isSome &&
      r.canSpawnAhead next then
    r.spawnFrom ctx next
  else r

/-- Ends a completed run. -/
def succeed (r : Run P F) : Run P F :=
  { r.dismissAll with active := false, outcome := some .completed }.complete

/-- Lets a stage go that has ended: what it changed is taken over, and its reader's input is over. -/
def retire (index : Nat) (changed : Option Snapshot) (r : Run P F) : Run P F :=
  let r := { r with finished := index :: r.finished }.merge changed
  let r := match r.reader? (index + 1) with
    | some h => r.setHost h.closeInput
    | none => r
  { r with resident := r.resident.filter (·.index != index) }

def onEnd (ctx : Setting P) (index : Nat) (changed : Option Snapshot) (r : Run P F) : Run P F :=
  let r := r.retire index changed
  if index + 1 = r.stageCount then r.succeed
  else (r.spawnFrom ctx (index + 1)).refill ctx

/-- Only the first stage can be given typed lines; without any its input is over. -/
def onRequest (index : Nat) (r : Run P F) : Run P F :=
  match index, r.reader? 0 with
  | 0, some h =>
    if r.session.input.isNone then r.setHost h.closeInput else { r with wanted := true }
  | _, _ => r

/-- Events of stages that are not resident are dropped. -/
def onEvent (ctx : Setting P) (index : Nat) (e : StageEvent) (r : Run P F) : Run P F :=
  match (if r.active then r.host? index else none) with
  | none => r
  | some h =>
    let r := r.note (.handled index e)
    match e with
    | .data bytes => onData ctx index bytes r
    | .ended changed => onEnd ctx index changed r
    | .failed message changed =>
      failStage ctx h.command (.broken h.command message) changed r
    | .wantsInput => onRequest index r

/-- A typed line goes to the first stage with its newline; the end of input closes it. -/
def onLine (line : Option String) (r : Run P F) : Run P F :=
  match r.reader? 0, line with
  | none, _ => r
  | some h, some line =>
    let data := Utf8.encode (line ++ "\n")
    match h.writeInput data with
    | .ok h => (r.setHost h).note (.written 0 data)
    | .error why => r.note (.refused 0 data why)
  | some h, none => r.setHost h.closeInput

/-- Takes up a request for a line, unless one is on its way already. -/
def takeUp (r : Run P F) : Run P F :=
  if r.wanted then
    { r with
      wanted := false
      reading := if r.reading = .idle && r.session.input.isSome then .due else r.reading }
  else r

/-! ## Starting -/

/-- Reads the line and resolves its stages. What fails here fails before any stage exists. -/
def prepare (ctx : Setting P) (r : Run P F) : Run P F :=
  if r.report.isSome then r
  else
    match ctx.parse r.line with
    | .error why => refuse (.unreadable why.full) r
    | .ok statements =>
      let (effects, stages) := ctx.resolver.statements r.session.requests statements
      let r := r.record effects
      match stages with
      | .error why => refuse why r
      | .ok stages => { r with stages := stages }
where
  refuse (why : Failure) (r : Run P F) : Run P F :=
    let r := r.record (ctx.console.print ("conduit: parse error (" ++ why.message ++ ")\n"))
    { r with outcome := some (.failed why) }.complete

/-- Makes a prepared run active; one that was to be killed before that is killed at once. -/
def activate (ctx : Setting P) (r : Run P F) : Run P F :=
  if r.report.isSome then r
  else
    let r := { r with active := true }
    if r.killRequested then r.kill else (r.spawnFrom ctx 0).takeUp

end Run

end Pipework
