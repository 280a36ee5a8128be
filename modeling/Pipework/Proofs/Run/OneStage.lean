import Mathlib.Logic.Function.Iterate
import Pipework.Proofs.Run.Reached
import Pipework.Proofs.Yield

/-!
# One stage at a time

Without shared memory the stages of a run follow one another, and at any time there is one thing to
be done (`advance`). A run is `OneStageActive` with a host while a stage is under way and
`BetweenStages` between two stages. Each kind of advance is read off once, and a choice that is open
to such a run is the advance or changes nothing (`OneStageActive.step_cases`).
-/

namespace Pipework

/-- What the stages that were carried through so far have come to. Effects are in order. -/
structure Tally (F : Type) where
  files : F
  /-- What callbacks were called with, last first. -/
  calls : List Callback.Call
  effects : List Effect
  spawned : Nat
  merges : Nat

namespace Tally

variable {F : Type} [Filesystem F]

def opening (files : F) (past : List Callback.Call) : Tally F := ⟨files, past, [], 0, 0⟩

def emit (t : Tally F) (effects : List Effect) : Tally F :=
  { t with effects := t.effects ++ effects }

/-- What the next stage is given of the files. -/
abbrev snapshot (t : Tally F) : Snapshot := Filesystem.snapshot t.files

/-- One more stage is given the snapshot of the files; a callback is called. -/
def handOut (call : Option Callback.Call) (t : Tally F) : Tally F :=
  { t.emit [.exported t.snapshot] with calls := call.toList ++ t.calls, spawned := t.spawned + 1 }

/-- Takes a changed snapshot over. One that is refused changes nothing. -/
def merge (t : Tally F) : Option Snapshot → Tally F
  | none => t
  | some s =>
    match Filesystem.accept t.files s with
    | .ok files => { t.emit [.imported s none] with files := files, merges := t.merges + 1 }
    | .error why => t.emit [.imported s (some why.full)]

/-- What a run of so many stages reports in the end. -/
def report (t : Tally F) (line : String) (total : Nat) (outcome : Outcome) : Report where
  command := line
  outcome := outcome
  total := total
  spawned := t.spawned
  maxResident := 1
  merges := t.merges

end Tally

/-- What showing pieces of output does. -/
def Console.show (c : Console) (pieces : List Bytes) : List Effect :=
  pieces.flatMap fun piece => c.print (Utf8.decodeLossy piece)

namespace Run

variable {P F : Type} [Program P] [Filesystem F] {ctx : Setting P}

/-! ## Advancing -/

/-- Does what is to be done next. -/
def advance (ctx : Setting P) (r : Run P F) : Run P F := r.steps ctx r.nextChoices

theorem advance_of_inactive {r : Run P F} (h : r.active = false) : advance ctx r = r := by
  simp [advance, nextChoices, steps, h]

theorem drive_eq (turns : Nat) (r : Run P F) : drive ctx id turns r = (advance ctx)^[turns] r := by
  induction turns generalizing r with
  | zero => rfl
  | succ turns ih =>
    rw [drive, Function.iterate_succ_apply]
    split
    · rename_i hnone
      have hfix : advance ctx r = r := by
        rw [advance, hnone]
        rfl
      rw [hfix, Function.iterate_fixed hfix]
    · exact ih _

/-- A run that is over has nothing more to be done. -/
theorem iterate_of_inactive (ctx : Setting P) {r : Run P F} (h : r.active = false) (n : Nat) :
    (advance ctx)^[n] r = r := Function.iterate_fixed (advance_of_inactive h) n

theorem active_of_iterate {r : Run P F} {n : Nat} (h : ((advance ctx)^[n] r).active = true) :
    r.active = true := by
  cases hr : r.active with
  | true => rfl
  | false =>
    rw [iterate_of_inactive ctx hr] at h
    exact hr.symm.trans h

/-! ## Sequential runs -/

/-- A run that is under way with what it has come to; nobody types and nobody kills it. -/
structure SequentialInv (base : Session F) (line : String) (stages : List (Stage P)) (t : Tally F)
    (r : Run P F) : Prop where
  active : r.active = true
  line : r.line = line
  stages : r.stages = stages
  idle : r.reading = .idle
  unwanted : r.wanted = false
  unkilled : r.killRequested = false
  outcome : r.outcome = none
  report : r.report = none
  spawned : r.spawned = t.spawned
  merges : r.merges = t.merges
  session : r.session = { base with files := t.files, calls := t.calls }.record t.effects
  unshared : base.factory.sharedMemory = false

/-- No stage is under way, and stage `k` is next. -/
structure BetweenStages (base : Session F) (line : String) (stages : List (Stage P)) (t : Tally F)
    (k : Nat) (backlog : Bytes) (r : Run P F) :
    Prop extends SequentialInv base line stages t r where
  next : r.nextSpawn = k
  resident : r.resident = []
  over_lt : ∀ i ∈ r.finished, i < k
  queue : r.mailbox.toList = []
  backlog : r.backlog.toList = backlog
  maxResident : r.maxResident ≤ 1

/-- The stage of one inline host is under way, and only its events are queued. -/
structure OneStageActive (base : Session F) (line : String) (stages : List (Stage P)) (t : Tally F)
    (h : Host P) (queue : List StageEvent) (backlog : Bytes) (r : Run P F) : Prop
    extends SequentialInv base line stages t r where
  resident : r.resident = [h]
  stage : r.stages[h.index]? = some h.stage
  inline : h.kind = .inline
  live : h.cancelled = false
  phase : h.phase = .over ∨ ∃ task initial, h.phase = .working task initial false
  next : r.nextSpawn = h.index + 1
  over_lt : ∀ i ∈ r.finished, i < h.index
  queue : r.mailbox.toList = queue.map (h.index, ·)
  backlog : r.backlog.toList = backlog
  maxResident : r.maxResident = 1

variable {base : Session F} {line : String} {stages : List (Stage P)} {t : Tally F} {r : Run P F}

theorem SequentialInv.ahead (q : SequentialInv base line stages t r) (index : Nat) :
    r.canSpawnAhead index = false := by
  have hshared : r.session.factory.sharedMemory = false := by
    rw [q.session]
    exact q.unshared
  simp [canSpawnAhead, hshared]

theorem SequentialInv.takeUp (q : SequentialInv base line stages t r) :
    r.takeUp = r := takeUp_of_unwanted q.unwanted

theorem SequentialInv.record (q : SequentialInv base line stages t r) (effects : List Effect) :
    SequentialInv base line stages (t.emit effects) (r.record effects) :=
  { q with
    session := by
      have hsession : (r.record effects).session = r.session.record effects := rfl
      rw [hsession, q.session]
      simp [Session.record, Tally.emit] }

@[simp] theorem merge_maxResident (r : Run P F) (changed : Option Snapshot) :
    (r.merge changed).maxResident = r.maxResident := by
  unfold Run.merge
  split
  · rfl
  · split <;> rfl

theorem SequentialInv.files (q : SequentialInv base line stages t r) :
    r.session.files = t.files := by
  rw [q.session]
  rfl

theorem SequentialInv.calls (q : SequentialInv base line stages t r) :
    r.session.calls = t.calls := by
  rw [q.session]
  rfl

theorem SequentialInv.snapshot (q : SequentialInv base line stages t r) :
    r.session.snapshot = t.snapshot :=
  congrArg Filesystem.snapshot q.files

theorem SequentialInv.merge (q : SequentialInv base line stages t r) (changed : Option Snapshot) :
    SequentialInv base line stages (t.merge changed) (r.merge changed) := by
  cases changed with
  | none => exact q
  | some s =>
    simp only [Run.merge, Tally.merge, q.files]
    cases Filesystem.accept t.files s with
    | ok files =>
      have q' := q.record [.imported s none]
      exact
        { q' with
          merges := congrArg (· + 1) q.merges
          session :=
            congrArg (fun session : Session F => { session with files := files }) q'.session }
    | error why => exact q.record _

/-! ### Setting the next stage going -/

/-- How a host stands whose stage was just set going: the yield of the stage is still to come, or
was reported at once. -/
def Started (h : Host P) (past : List Callback.Call) (files : Snapshot) (input : Bytes)
    (events : List StageEvent) : Prop :=
  (∃ task, h.phase = .working task files false ∧ h.supply = .given input ∧ events = [] ∧
      ∀ acts, h.stage.yield? acts past files input = task.yield? acts input) ∨
    (h.phase = .over ∧ ∃ y : Yield, events = y.events files ∧
      ∀ acts, h.stage.yield? acts past files input = some y)

/-- Without shared memory the host of every stage is an inline one. -/
theorem BetweenStages.factory_spawn (ctx : Setting P) {k : Nat} {backlog : Bytes}
    (v : BetweenStages base line stages t k backlog r) (stage : Stage P) (files : Snapshot) :
    r.session.factory.spawn ctx.console k stage files =
      ([], r.session.factory, .ok (.inline k stage files)) := by
  have hshared : r.session.factory.sharedMemory = false := by
    rw [v.session]
    exact v.unshared
  unfold Factory.spawn
  rw [Host.kindFor_eq, hshared]
  rfl

theorem BetweenStages.gathered {k : Nat} {backlog : Bytes}
    (v : BetweenStages base line stages t k backlog r) : r.backlog.take.1.getD [] = backlog := by
  rw [Backlog.take_fst, v.backlog]
  split
  · rename_i hempty
    exact (List.isEmpty_iff.mp hempty).symm
  · rfl

/-- Setting the next stage going in full: its host is given all that waited for it. -/
theorem BetweenStages.spawnStage_eq (ctx : Setting P) {k : Nat} {backlog : Bytes}
    (v : BetweenStages base line stages t k backlog r) {stage : Stage P}
    (hstage : stages[k]? = some stage) {h : Host P} {events : List StageEvent}
    (hstart : ∀ input : Option Bytes, input.getD [] = backlog →
      (Host.inline k stage t.snapshot).start t.calls input = (h, events, none)) :
    spawnStage ctx k r =
      takeIn h events
        (note (.started k r.backlog.take.1)
          { r.equip k [.exported t.snapshot] r.session.factory with
            backlog := r.backlog.take.2
            spawned := r.spawned + 1
            session := (r.session.record [.exported t.snapshot]).call
              (stage.call? t.snapshot backlog) }) := by
  have hcall : (Host.inline k stage t.snapshot).call? r.backlog.take.1 =
      stage.call? t.snapshot backlog := by
    rw [← v.gathered]
    rfl
  have hpast : (r.session.record [.exported t.snapshot]).calls = t.calls := v.calls
  have hstarted := hstart _ v.gathered
  rw [← hpast] at hstarted
  unfold spawnStage
  simp only [v.stages, hstage, v.snapshot, v.factory_spawn, settle, equip, hcall, hstarted]
  rfl

/-- What a run has come to is left alone but for what the next stage is handed. -/
theorem BetweenStages.spawn_sequentialInv (ctx : Setting P) {k : Nat} {backlog : Bytes}
    (v : BetweenStages base line stages t k backlog r) {stage : Stage P}
    (hstage : stages[k]? = some stage) {h : Host P} {events : List StageEvent}
    (hstart : ∀ input : Option Bytes, input.getD [] = backlog →
      (Host.inline k stage t.snapshot).start t.calls input = (h, events, none)) :
    SequentialInv base line stages (t.handOut (stage.call? t.snapshot backlog))
      (spawnStage ctx k r) := by
  rw [v.spawnStage_eq ctx hstage hstart]
  refine { v.toSequentialInv with spawned := congrArg (· + 1) v.spawned, session := ?_ }
  show (r.session.record [.exported t.snapshot]).call (stage.call? t.snapshot backlog) = _
  rw [v.session]
  simp [Session.record, Session.call, Tally.handOut, Tally.emit]

/-- An inline host that is taken in when no other is there is the only one. -/
theorem takeIn_inline {r : Run P F} {h : Host P} (hkind : h.kind = .inline)
    (hresident : r.resident = []) (events : List StageEvent) :
    (r.takeIn h events).resident = [h] := by
  refine (congrArg Pipeline.resident (pipeline_takeIn r h events)).trans ?_
  rw [Host.closeInput_of_inline hkind, ite_self]
  exact congrArg (· ++ [h]) hresident

/-- **The stage that is next runs alone** once it has been set going. -/
theorem BetweenStages.spawn (ctx : Setting P) {k : Nat} {backlog : Bytes}
    (v : BetweenStages base line stages t k backlog r)
    {stage : Stage P} (hstage : stages[k]? = some stage) :
    ∃ h events,
      OneStageActive base line stages (t.handOut (stage.call? t.snapshot backlog)) h events []
        (spawnStage ctx k r) ∧
      h.index = k ∧ h.stage = stage ∧ Started h t.calls t.snapshot backlog events := by
  obtain ⟨h, events, hstart, hindex, hplace, hkind, hlive, hstarted⟩ :=
    Host.start_inline k stage t.calls t.snapshot backlog
  have hsequential := v.spawn_sequentialInv ctx hstage hstart
  have hspawn := v.spawnStage_eq ctx hstage hstart
  have hphase : h.phase = .over ∨ ∃ task initial, h.phase = .working task initial false := by
    rcases hstarted with ⟨task, hwork, -⟩ | ⟨hover, -⟩
    · exact Or.inr ⟨task, _, hwork⟩
    · exact Or.inl hover
  have hresident : (spawnStage ctx k r).resident = [h] := by
    rw [hspawn]
    exact takeIn_inline hkind v.resident events
  have hmax : (spawnStage ctx k r).maxResident = 1 := by
    have hle := v.maxResident
    have hone : (spawnStage ctx k r).maxResident =
        max r.maxResident (spawnStage ctx k r).resident.length := by
      rw [hspawn]
      rfl
    rw [hone, hresident, List.length_singleton]
    omega
  have hqueue : (spawnStage ctx k r).mailbox.toList = events.map (h.index, ·) := by
    rw [hspawn]
    refine (congrArg Pipeline.queue (pipeline_takeIn _ h events)).trans ?_
    exact congrArg (· ++ events.map (h.index, ·)) v.queue
  subst hindex hplace
  refine ⟨h, events, { hsequential with
    resident := hresident, stage := ?_, inline := hkind, live := hlive, phase := hphase
    next := ?_, over_lt := ?_, queue := hqueue, backlog := ?_, maxResident := hmax }, rfl, rfl,
    hstarted⟩
  · rw [hsequential.stages]
    exact hstage
  · rw [hspawn]
    rfl
  · rw [hspawn]
    exact v.over_lt
  · rw [hspawn]
    rfl

/-! ### Working and handling events -/

variable {h h' : Host P} {queue : List StageEvent} {backlog : Bytes}

theorem OneStageActive.host? (a : OneStageActive base line stages t h queue backlog r)
    (index : Nat) : r.host? index = if h.index = index then some h else none := by
  unfold Run.host?
  rw [a.resident]
  by_cases hi : h.index = index <;> simp [hi]

/-- An inline host has no channel to be fed through. -/
theorem OneStageActive.reader? (a : OneStageActive base line stages t h queue backlog r)
    (index : Nat) : r.reader? index = none := by
  have hnone : h.channel?.isSome = false := by
    rw [Bool.eq_false_iff, ne_eq, Host.channel?_isSome, a.inline]
    nofun
  unfold Run.reader?
  rw [a.host?]
  split
  · simp [Option.filter, hnone]
  · rfl

theorem OneStageActive.lt (a : OneStageActive base line stages t h queue backlog r) :
    h.index < stages.length := by
  have hlt := (List.getElem?_eq_some_iff.mp a.stage).1
  rwa [a.stages] at hlt

theorem OneStageActive.blocks (a : OneStageActive base line stages t h queue backlog r) :
    h.blocksOthers = true ↔ ∃ task initial, h.phase = .working task initial false := by
  obtain ⟨rest, hsupply⟩ := Host.supply_of_inline a.inline
  unfold Host.blocksOthers
  rcases a.phase with hover | ⟨task, initial, hwork⟩
  · simp [hover]
  · simp [hwork, hsupply]

/-- **A host at work is the only one with anything to do.** -/
theorem OneStageActive.advance_work (a : OneStageActive base line stages t h queue backlog r)
    {task : Task P} {initial : Snapshot} (hwork : h.phase = .working task initial false) :
    advance ctx r = r.stepWork h.index := by
  have hblocks := a.blocks.mpr ⟨task, initial, hwork⟩
  have hnext : r.nextChoices = [.work h.index] := by
    simp [nextChoices, a.active, a.resident, hblocks]
  simp [advance, hnext, steps, step, a.active]

theorem OneStageActive.work (a : OneStageActive base line stages t h queue backlog r)
    {events : List StageEvent} (hstep : h.step = some (h', events)) (hsame : Host.SameIdentity h h')
    (hphase : h'.phase = .over ∨ ∃ task initial, h'.phase = .working task initial false) :
    OneStageActive base line stages t h' (queue ++ events) backlog (r.stepWork h.index) := by
  have hwork : r.stepWork h.index = (r.setHost h').post h.index events := by
    unfold stepWork
    rw [a.host?, if_pos rfl]
    simp only [hstep]
  rw [hwork]
  have hresident : (r.setHost h').resident = [h'] := by
    unfold setHost
    rw [a.resident]
    simp [hsame.index]
  have hqueue : ((r.setHost h').post h.index events).mailbox.toList =
      (queue ++ events).map (h'.index, ·) := by
    unfold post
    rw [Mailbox.toList_post, List.map_append, hsame.index]
    exact congrArg (· ++ _) a.queue
  exact
    { a with
      resident := hresident
      stage := by
        rw [hsame.index, hsame.stage]
        exact a.stage
      inline := hsame.kind.trans a.inline
      live := hsame.cancelled.trans a.live
      phase := hphase
      next := by
        rw [hsame.index]
        exact a.next
      over_lt := by
        rw [hsame.index]
        exact a.over_lt
      queue := hqueue }

theorem OneStageActive.isSettled_of_over (a : OneStageActive base line stages t h queue backlog r)
    (hover : h.phase = .over) : r.isSettled = true := by
  have hfree : h.blocksOthers = false := by
    rw [Bool.eq_false_iff, ne_eq, a.blocks, hover]
    rintro ⟨_, _, hwork⟩
    cases hwork
  simp [isSettled, a.resident, hfree]

theorem OneStageActive.advance_event (a : OneStageActive base line stages t h queue backlog r)
    (hover : h.phase = .over) (hqueue : queue ≠ []) : advance ctx r = r.stepEvent ctx := by
  have hsettled := a.isSettled_of_over hover
  have hfree : h.blocksOthers = false := by
    simpa [isSettled, a.resident] using hsettled
  have hsome : r.mailbox.isEmpty = false := by
    rw [Mailbox.isEmpty_eq, a.queue]
    simpa using hqueue
  have hnext : r.nextChoices = [.event] := by
    simp [nextChoices, a.active, a.resident, hfree, a.unkilled, hsome]
  simp [advance, hnext, steps, step, a.active, hsettled, a.unkilled]

theorem OneStageActive.lineReady (a : OneStageActive base line stages t h queue backlog r) :
    r.lineReady = false := by
  simp [Run.lineReady, a.idle]

/-- The next event has been taken out and noted. -/
theorem OneStageActive.handled {e : StageEvent} {mailbox : Mailbox (Nat × StageEvent)}
    (a : OneStageActive base line stages t h (e :: queue) backlog r)
    (hrest : mailbox.toList = queue.map (h.index, ·)) :
    OneStageActive base line stages t h queue backlog
      ({ r with mailbox := mailbox }.note (.handled h.index e)) :=
  { a with queue := hrest }

/-- Handling an event, with what each kind of event comes to. -/
theorem OneStageActive.stepEvent (ctx : Setting P) {e : StageEvent}
    (a : OneStageActive base line stages t h (e :: queue) backlog r) :
    ∃ r', OneStageActive base line stages t h queue backlog r' ∧
      r.stepEvent ctx =
        (match e with
          | .data bytes => onData ctx h.index bytes r'
          | .ended changed => onEnd ctx h.index changed r'
          | .failed message changed =>
            failStage ctx h.command (.broken h.command message) changed r'
          | .wantsInput => onRequest h.index r').takeUp := by
  obtain ⟨mailbox, htake, hrest⟩ := Mailbox.take?_of_toList a.queue
  refine ⟨_, a.handled hrest, ?_⟩
  have hfound : (if ({ r with mailbox := mailbox } : Run P F).active then
      ({ r with mailbox := mailbox } : Run P F).host? h.index else none) = some h := by
    have hhost := a.host? h.index
    rw [if_pos rfl] at hhost
    simp only [a.active, if_true]
    exact hhost
  unfold Run.stepEvent onEvent
  cases e <;> simp only [htake, hfound]

/-- Output of the last stage is printed, that of any other is put by. -/
theorem OneStageActive.onData (ctx : Setting P)
    (a : OneStageActive base line stages t h queue backlog r) (data : Bytes) :
    if h.index + 1 = stages.length then
      OneStageActive base line stages (t.emit (ctx.console.print (Utf8.decodeLossy data))) h queue
        backlog (Run.onData ctx h.index data r)
    else
      OneStageActive base line stages t h queue (backlog ++ data)
        (Run.onData ctx h.index data r) := by
  have hcount : r.stageCount = stages.length := congrArg List.length a.stages
  have hshared : r.session.factory.sharedMemory = false := by
    rw [a.session]
    exact a.unshared
  have hopen : r.finished.contains (h.index + 1) = false := by
    rw [Bool.eq_false_iff, ne_eq, List.contains_iff_mem]
    intro hmem
    have := a.over_lt _ hmem
    omega
  unfold Run.onData
  rw [hcount, hopen]
  split
  · exact { a with toSequentialInv := a.toSequentialInv.record _ }
  · have hbacklog : (r.backlog.append data).toList = backlog ++ data := by
      rw [Backlog.toList_append, a.backlog]
    simp only [hshared, Bool.false_eq_true, if_false]
    exact { a with backlog := hbacklog }

/-- After its end has been handled a stage is gone. -/
theorem OneStageActive.retire (a : OneStageActive base line stages t h [] backlog r)
    (changed : Option Snapshot) :
    BetweenStages base line stages (t.merge changed) (h.index + 1) backlog
      (r.retire h.index changed) ∧
      (r.retire h.index changed).maxResident = 1 := by
  have hnoted : SequentialInv base line stages t { r with finished := h.index :: r.finished } :=
    { a.toSequentialInv with active := a.active }
  have hquiet := hnoted.merge changed
  have hmax : ({ r with finished := h.index :: r.finished }.merge changed).maxResident = 1 :=
    (merge_maxResident _ _).trans a.maxResident
  have hpipeline := pipeline_merge { r with finished := h.index :: r.finished } changed
  have hunread : ({ r with finished := h.index :: r.finished }.merge changed).reader?
      (h.index + 1) = none := by
    have hresident := congrArg Pipeline.resident hpipeline
    refine Eq.trans ?_ (a.reader? (h.index + 1))
    simp only [Run.reader?, Run.host?]
    exact congrArg (fun hosts => Option.filter _ (List.find? _ hosts)) hresident
  have hretire : r.retire h.index changed =
      { { r with finished := h.index :: r.finished }.merge changed with
        resident := ({ r with finished := h.index :: r.finished }.merge changed).resident.filter
          (·.index != h.index) } := by
    unfold Run.retire
    simp only [hunread]
  rw [hretire]
  generalize { r with finished := h.index :: r.finished }.merge changed =
    r' at hquiet hpipeline hmax
  have hresident : r'.resident = [h] := (congrArg Pipeline.resident hpipeline).trans a.resident
  refine ⟨?_, hmax⟩
  exact
    { hquiet with
      next := (congrArg Pipeline.next hpipeline).trans a.next
      resident := by
        simp [hresident]
      over_lt := by
        intro i hi
        have hfinished : r'.finished = h.index :: r.finished := congrArg Pipeline.finished hpipeline
        rw [hfinished] at hi
        rcases List.mem_cons.mp hi with rfl | hi
        · exact Nat.lt_succ_self _
        · exact Nat.lt_succ_of_lt (a.over_lt i hi)
      queue := (congrArg Pipeline.queue hpipeline).trans a.queue
      backlog := (congrArg Pipeline.backlog hpipeline).trans a.backlog
      maxResident := Nat.le_of_eq hmax }

/-! ### Ends -/

/-- A run that is over and has come to `t`. -/
structure Concluded (base : Session F) (line : String) (stages : List (Stage P)) (t : Tally F)
    (o : Outcome) (r : Run P F) : Prop where
  ended : r.active = false
  outcome : r.outcome = some o
  report : r.report = some (t.report line stages.length o)
  session : r.session = { base with files := t.files, calls := t.calls }.record
    (t.effects ++ [Effect.completed (t.report line stages.length o)])

theorem Concluded.takeUp {o : Outcome} (c : Concluded base line stages t o r) :
    Concluded base line stages t o r.takeUp := by
  unfold Run.takeUp
  split
  · exact { c with ended := c.ended }
  · exact c

/-- Closing the run tells what it has come to. -/
theorem SequentialInv.conclude (q : SequentialInv base line stages t r) (hmax : r.maxResident = 1)
    (resident dismissed : List (Host P)) (backlog : Backlog) (o : Outcome) :
    Concluded base line stages t o
      ({ r with
        resident := resident
        dismissed := dismissed
        backlog := backlog
        active := false
        outcome := some o } : Run P F).complete := by
  have hreport : Report.mk r.line o r.stageCount r.spawned r.maxResident r.merges =
      t.report line stages.length o := by
    rw [q.line, q.spawned, hmax, q.merges, stageCount, q.stages]
    rfl
  generalize hr : ({ r with
    resident := resident
    dismissed := dismissed
    backlog := backlog
    active := false
    outcome := some o } : Run P F) = r'
  have hcomplete : r'.complete = { r' with
      report := some (t.report line stages.length o)
      completions := r'.completions + 1 }.record
        [.completed (t.report line stages.length o)] := by
    unfold complete
    rw [← hreport, ← hr]
    simp only [q.report]
    rfl
  have hsession :
      r'.session = { base with files := t.files, calls := t.calls }.record t.effects := by
    rw [← hr]
    exact q.session
  rw [hcomplete]
  refine ⟨?_, ?_, rfl, ?_⟩
  · rw [← hr]
    rfl
  · rw [← hr]
    rfl
  · refine (congrArg (fun session : Session F => session.record
      [.completed (t.report line stages.length o)]) hsession).trans ?_
    simp [Session.record]

/-- **A failing stage ends the run**, its snapshot is taken over only if the setting says so. -/
theorem OneStageActive.failStage (a : OneStageActive base line stages t h queue backlog r)
    (why : Failure) (changed : Option Snapshot) :
    Concluded base line stages
      (if ctx.mergeOnError then (t.emit (ctx.console.print (why.notice h.command))).merge changed
        else t.emit (ctx.console.print (why.notice h.command)))
      (.failed why) (Run.failStage ctx h.command why changed r) := by
  have hquiet := a.toSequentialInv.record (ctx.console.print (why.notice h.command))
  unfold Run.failStage
  simp only [a.active, if_true]
  generalize hr : (if ctx.mergeOnError then
    (r.record (ctx.console.print (why.notice h.command))).merge changed
      else r.record (ctx.console.print (why.notice h.command))) = r'
  have hquiet' : SequentialInv base line stages
      (if ctx.mergeOnError then (t.emit (ctx.console.print (why.notice h.command))).merge changed
        else t.emit (ctx.console.print (why.notice h.command))) r' := by
    rw [← hr]
    split
    · exact hquiet.merge changed
    · exact hquiet
  have hmax : r'.maxResident = 1 := by
    rw [← hr]
    split
    · exact (merge_maxResident _ _).trans a.maxResident
    · exact a.maxResident
  have hkill : ({ r' with outcome := some (.failed why) } : Run P F).kill =
      ({ r' with
        resident := []
        dismissed := r'.dismissed ++ r'.resident.map Host.terminate
        backlog := .empty
        active := false
        outcome := some (.failed why) } : Run P F).complete := by
    unfold kill
    simp only [hquiet'.active, if_true]
    rfl
  rw [hkill]
  exact hquiet'.conclude hmax _ _ _ _

theorem OneStageActive.onEnd_last (a : OneStageActive base line stages t h [] backlog r)
    (hlast : h.index + 1 = stages.length) (changed : Option Snapshot) :
    Concluded base line stages (t.merge changed) .completed (Run.onEnd ctx h.index changed r) := by
  obtain ⟨v, hmax⟩ := a.retire changed
  have hcount : (r.retire h.index changed).stageCount = stages.length :=
    congrArg List.length v.stages
  unfold Run.onEnd
  simp only [hcount, hlast, if_true]
  exact v.toSequentialInv.conclude hmax _ _ _ _

theorem BetweenStages.spawnFrom (ctx : Setting P) {k : Nat}
    (v : BetweenStages base line stages t k backlog r) (hlt : k < stages.length) :
    Run.spawnFrom ctx k r = spawnStage ctx k r := by
  have hcount : r.stageCount = stages.length := congrArg List.length v.stages
  obtain ⟨fuel, hfuel⟩ : ∃ fuel, stages.length = fuel + 1 := ⟨stages.length - 1, by omega⟩
  obtain ⟨h, events, a, -⟩ := v.spawn ctx (List.getElem?_eq_getElem hlt)
  unfold Run.spawnFrom
  rw [hcount, hfuel, spawnWindow, hcount]
  simp [v.active, v.next, v.resident, window, hlt, a.toSequentialInv.ahead]

/-- **When a stage has ended the next one follows**, and it alone. -/
theorem OneStageActive.onEnd_inner (a : OneStageActive base line stages t h [] backlog r)
    (hinner : h.index + 1 < stages.length) (changed : Option Snapshot) :
    Run.onEnd ctx h.index changed r = spawnStage ctx (h.index + 1) (r.retire h.index changed) := by
  obtain ⟨v, -⟩ := a.retire changed
  have hcount : (r.retire h.index changed).stageCount = stages.length :=
    congrArg List.length v.stages
  obtain ⟨h', events, a', -⟩ := v.spawn ctx (List.getElem?_eq_getElem hinner)
  unfold Run.onEnd
  simp only [hcount, Nat.ne_of_lt hinner, if_false, v.spawnFrom ctx hinner]
  simp [refill, a'.toSequentialInv.ahead]

/-! ## Every order of choices -/

theorem OneStageActive.step_work (a : OneStageActive base line stages t h queue backlog r)
    (index : Nat) : step ctx r (.work index) = r ∨ step ctx r (.work index) = advance ctx r := by
  simp only [step, a.active, if_true]
  rcases a.phase with hover | ⟨task, initial, hwork⟩
  · refine Or.inl ?_
    unfold stepWork
    rw [a.host?]
    split
    · rfl
    · rename_i h' hfound
      have hh : h' = h := by
        split at hfound
        · exact (Option.some.inj hfound).symm
        · cases hfound
      simp [hh, Host.step, hover]
  · by_cases hi : h.index = index
    · rw [← hi]
      exact Or.inr (a.advance_work hwork).symm
    · refine Or.inl ?_
      unfold stepWork
      rw [a.host?, if_neg hi]

/-- **A choice does what is to be done next or changes nothing**, unless it requests a kill. -/
theorem OneStageActive.step_cases (a : OneStageActive base line stages t h queue backlog r)
    {c : Choice} (hc : c ≠ .requestKill) : step ctx r c = r ∨ step ctx r c = advance ctx r := by
  cases c with
  | work index => exact a.step_work index
  | requestKill => exact absurd rfl hc
  | kill => simp [step, a.unkilled]
  | line => simp [step, a.lineReady]
  | event =>
    rcases a.phase with hover | ⟨task, initial, hwork⟩
    · cases hqueue : queue with
      | nil =>
        subst hqueue
        refine Or.inl ?_
        have hempty : r.mailbox.take? = none := by
          cases htake : r.mailbox.take? with
          | none => rfl
          | some taken => exact absurd ((Mailbox.take?_eq_some htake).symm.trans a.queue) (by simp)
        simp [step, a.active, a.isSettled_of_over hover, a.unkilled, Run.stepEvent, hempty]
      | cons e rest =>
        refine Or.inr ?_
        rw [a.advance_event hover (by simp [hqueue])]
        simp [step, a.active, a.isSettled_of_over hover, a.unkilled]
    · have hblocks := a.blocks.mpr ⟨task, initial, hwork⟩
      refine Or.inl ?_
      simp [step, isSettled, a.resident, hblocks]

/-- What an inline host comes to by one act. -/
theorem OneStageActive.act (ctx : Setting P)
    (a : OneStageActive base line stages t h queue backlog r)
    {task : Task P} {initial : Snapshot} {rest : Bytes}
    (hwork : h.phase = .working task initial false) (hsupply : h.supply = .given rest) :
    OneStageActive base line stages t (h.actResult initial rest task.act).1
      (queue ++ (h.actResult initial rest task.act).2) backlog (advance ctx r) := by
  rw [a.advance_work hwork]
  have hkind : h.kind = .inline := a.inline
  refine a.work (Host.step_inline a.live hwork hsupply) ?_ ?_
  · cases task.act with
    | read limit answer => exact ⟨rfl, rfl, by simp [Host.actResult, Host.kind, hsupply], rfl⟩
    | _ => exact ⟨rfl, rfl, rfl, rfl⟩
  · cases task.act with
    | finish verdict files => exact Or.inl rfl
    | _ => exact Or.inr ⟨_, _, rfl⟩

/-- Output is queued while a stage is at work, and behind all of it what closes the stage. -/
def ClosingLast (h : Host P) (queue : List StageEvent) : Prop :=
  ((∃ task initial, h.phase = .working task initial false) ∧
      ∃ pieces : List Bytes, queue = pieces.map .data) ∨
    (h.phase = .over ∧ ∃ (pieces : List Bytes) (verdict : Verdict) (initial files : Snapshot),
      queue = pieces.map .data ++ [Host.closing verdict initial files])

theorem Started.closingLast {past : List Callback.Call} {files : Snapshot} {input : Bytes}
    {events : List StageEvent} (hout : Started h past files input events) :
    ClosingLast h events := by
  rcases hout with ⟨task, hwork, -, hevents, -⟩ | ⟨hover, y, hevents, -⟩
  · exact Or.inl ⟨⟨task, files, hwork⟩, [], hevents⟩
  · exact Or.inr ⟨hover, y.pieces, y.verdict, files, y.files, hevents⟩

theorem ClosingLast.act (hqueue : ∃ pieces : List Bytes, queue = pieces.map .data)
    (initial : Snapshot) (rest : Bytes) (act : Act P) :
    ClosingLast (h.actResult initial rest act).1 (queue ++ (h.actResult initial rest act).2) := by
  obtain ⟨pieces, rfl⟩ := hqueue
  cases act with
  | silent next => exact Or.inl ⟨⟨_, _, rfl⟩, pieces, List.append_nil _⟩
  | read limit answer => exact Or.inl ⟨⟨_, _, rfl⟩, pieces, List.append_nil _⟩
  | write data answer =>
    refine Or.inl ⟨⟨_, _, rfl⟩, ?_⟩
    simp only [Host.actResult]
    split
    · exact ⟨pieces, List.append_nil _⟩
    · exact ⟨pieces ++ [data], by simp⟩
  | finish verdict files => exact Or.inr ⟨rfl, pieces, verdict, initial, files, rfl⟩

/-- A run in which one stage is under way, or which is over. -/
def AtMostOneActive (base : Session F) (line : String) (stages : List (Stage P)) (r : Run P F) :
    Prop :=
  r.active = false ∨
    ∃ t h queue backlog, OneStageActive base line stages t h queue backlog r ∧ ClosingLast h queue

theorem BetweenStages.atMostOneActive (ctx : Setting P) {k : Nat}
    (v : BetweenStages base line stages t k backlog r)
    (hlt : k < stages.length) : AtMostOneActive base line stages (spawnStage ctx k r) := by
  obtain ⟨h, events, a, -, -, hout⟩ := v.spawn ctx (List.getElem?_eq_getElem hlt)
  exact Or.inr ⟨_, _, _, _, a, hout.closingLast⟩

/-- The closing event of a stage ends the run or brings the next stage. -/
theorem OneStageActive.close_atMostOneActive {e : StageEvent}
    (a : OneStageActive base line stages t h [e] backlog r)
    (hover : h.phase = .over)
    (he : ∃ verdict initial files, e = Host.closing verdict initial files) :
    AtMostOneActive base line stages (advance ctx r) := by
  rw [a.advance_event hover (List.cons_ne_nil _ _)]
  obtain ⟨r', a', hstep⟩ := a.stepEvent ctx
  rw [hstep]
  obtain ⟨verdict, initial, files, rfl⟩ := he
  unfold Host.closing
  cases verdict.message? with
  | some message => exact Or.inl (a'.failStage _ _).takeUp.ended
  | none =>
    rcases Nat.lt_or_ge (h.index + 1) stages.length with hinner | hlast
    · simp only [a'.onEnd_inner hinner]
      obtain ⟨v, -⟩ := a'.retire (Host.changed initial files)
      obtain ⟨h', events, a'', -, -, hout⟩ :=
        v.spawn ctx (List.getElem?_eq_getElem hinner)
      rw [a''.toSequentialInv.takeUp]
      exact Or.inr ⟨_, _, _, _, a'', hout.closingLast⟩
    · have hlast : h.index + 1 = stages.length := Nat.le_antisymm a.lt hlast
      exact Or.inl (a'.onEnd_last hlast _).takeUp.ended

theorem AtMostOneActive.advance (hs : AtMostOneActive base line stages r) :
    AtMostOneActive base line stages (advance ctx r) := by
  rcases hs with hoff |
    ⟨t, h, queue, backlog, a, hwork | ⟨hover, pieces, verdict, initial, files, hqueue⟩⟩
  · rw [advance_of_inactive hoff]
    exact Or.inl hoff
  · obtain ⟨⟨task, initial, hphase⟩, hqueue⟩ := hwork
    obtain ⟨rest, hsupply⟩ := Host.supply_of_inline a.inline
    exact Or.inr ⟨_, _, _, _, a.act ctx hphase hsupply, .act hqueue _ _ _⟩
  · subst hqueue
    cases pieces with
    | nil => exact a.close_atMostOneActive hover ⟨verdict, initial, files, rfl⟩
    | cons piece pieces =>
      rw [a.advance_event hover (by simp)]
      obtain ⟨r', a', hstep⟩ := a.stepEvent ctx
      have hdata := a'.onData ctx piece
      rw [hstep]
      have horderly : ClosingLast h (pieces.map .data ++ [Host.closing verdict initial files]) :=
        Or.inr ⟨hover, pieces, verdict, initial, files, rfl⟩
      split at hdata
      · simp only [hdata.toSequentialInv.takeUp]
        exact Or.inr ⟨_, _, _, _, hdata, horderly⟩
      · simp only [hdata.toSequentialInv.takeUp]
        exact Or.inr ⟨_, _, _, _, hdata, horderly⟩

/-- **A run of one stage at a time has only one way to go**, whatever is chosen. -/
theorem AtMostOneActive.steps (hs : AtMostOneActive base line stages r) {choices : List Choice}
    (hkill : .requestKill ∉ choices) :
    ∃ n, Run.steps ctx r choices = (Run.advance ctx)^[n] r := by
  induction choices generalizing r with
  | nil => exact ⟨0, rfl⟩
  | cons c choices ih =>
    have hc : c ≠ .requestKill := fun h => hkill (h ▸ List.mem_cons_self)
    have hrest : .requestKill ∉ choices := fun h => hkill (List.mem_cons_of_mem _ h)
    have hstep : step ctx r c = r ∨ step ctx r c = Run.advance ctx r := by
      rcases hs with hoff | ⟨_, _, _, _, a, -⟩
      · refine Or.inl ?_
        cases c with
        | requestKill => exact absurd rfl hc
        | _ => simp [step, hoff]
      · exact a.step_cases hc
    have hcons : Run.steps ctx r (c :: choices) = Run.steps ctx (step ctx r c) choices := rfl
    rw [hcons]
    rcases hstep with hstep | hstep
    · rw [hstep]
      exact ih hs hrest
    · rw [hstep]
      obtain ⟨n, hn⟩ := ih hs.advance hrest
      exact ⟨n + 1, hn⟩

end Run

end Pipework
