import Pipework.Proofs.Run.EventQueue
import Pipework.Proofs.Run.EndOfInput
import Pipework.Proofs.Run.Updates

/-!
# Stages that fail

A stage fails when it reports so, when no host can be made for it, and when its host does not start
(`StageFails`). Whichever it is, and whatever else is under way, the run ends with that failure in a
state that is told by what went before (`FailureOutcome`): the store holds the updates that were
taken over and at most the snapshot that came with the failure, and nothing of what the other stages
have under way or have reported comes to anything.

* `StageFails.failureOutcome` — a failure at any moment of an active run, in the middle of setting
  stages going too, leaves the decided state.
* `reached_failed` — a run has failed only by a stage that failed at some such moment.
* `failure_decides` — both, and that the failure of a stage is heard whenever its turn comes.
-/

namespace Pipework

/-- What the line about a failing stage gives as its cause: the bare message if the stage itself
broke, and else the failure as a whole. -/
def Failure.cause : Failure → String
  | .broken _ m => m
  | other => other.message

/-- A host that is set going, or fails to be, keeps its stage. -/
theorem Host.start_stage {P : Type} [Program P] {h h' : Host P} {past : List Callback.Call}
    {input : Option Bytes} {events : List StageEvent} {why : Option Failure}
    (hstart : h.start past input = (h', events, why)) :
    h'.stage = h.stage := by
  have hlaunch : ∀ (h : Host P) (image : Image) (p : P) (files : Snapshot),
      (h.launch image p files).1.stage = h.stage := by
    intro h image p files
    unfold launch
    split <;> rfl
  have hinline : ∀ (files : Snapshot) (input : Bytes),
      (h.startInline past files input).1.stage = h.stage := by
    intro files input
    unfold startInline
    split <;> rfl
  have hconcurrent : ∀ (image : Image) (p : P) (files : Snapshot),
      (h.startConcurrent image p files input).1.stage = h.stage := by
    intro image p files
    unfold startConcurrent
    split
    · exact hlaunch _ _ _ _
    · split
      · rename_i hwrite
        exact (hlaunch _ _ _ _).trans (writeInput_sameIdentity hwrite).1.stage
      · rfl
  unfold start at hstart
  split at hstart
  · cases hstart
    rfl
  · cases hstart
    rfl
  · split at hstart <;> cases hstart
    · exact hconcurrent _ _ _
    · exact hinline _ _

namespace Run

variable {P F : Type} [Program P] [Filesystem F] {ctx : Setting P} {base : Session F}
  {r r' : Run P F}

/-! ## Ending with a failure -/

/-- The next stage cannot be set going: there is no host for it, or its host does not start. -/
inductive SpawnFails (ctx : Setting P) (r : Run P F) : String → Failure → Prop where
  | unhosted {stage : Stage P} {effects : List Effect} {factory : Factory} {why : Failure}
      (hstage : r.stages[r.nextSpawn]? = some stage)
      (hspawn : r.session.factory.spawn ctx.console r.nextSpawn stage r.session.snapshot =
        (effects, factory, .error why)) :
      SpawnFails ctx r stage.command why
  | unlaunched {stage : Stage P} {effects : List Effect} {factory : Factory} {fresh h : Host P}
      {events : List StageEvent} {why : Failure} (hstage : r.stages[r.nextSpawn]? = some stage)
      (hspawn : r.session.factory.spawn ctx.console r.nextSpawn stage r.session.snapshot =
        (effects, factory, .ok fresh))
      (hstart : fresh.start r.pipeline.calls r.pipeline.gathered = (h, events, some why)) :
      SpawnFails ctx r stage.command why

/-- A stage with the given name fails, with the snapshot that it changed if it has told of one;
`after` is what the run makes of it. -/
inductive StageFails (ctx : Setting P) (r : Run P F) :
    String → Failure → Option Snapshot → Run P F → Prop where
  | reported {index : Nat} {message : String} {changed : Option Snapshot}
      {mailbox : Mailbox (Nat × StageEvent)} {h : Host P}
      (hqueue : r.pipeline.queue = (index, .failed message changed) :: mailbox.toList)
      (hfound : r.pipeline.host? index = some h) (hstage : r.stages[index]? = some h.stage) :
      StageFails ctx r h.command (.broken h.command message) changed
        (onEvent ctx index (.failed message changed) { r with mailbox := mailbox })
  | spawn {command : String} {why : Failure} (h : SpawnFails ctx r command why) :
      StageFails ctx r command why none (spawnStage ctx r.nextSpawn r)

/-- The run at the point where it notices the failure; nothing has come of it yet. -/
structure AtFailure (base : Session F) (r before : Run P F) : Prop where
  undecided : Undecided base before
  files : before.session.files = r.session.files
  prints : before.session.prints = r.session.prints
  finished : before.finished = r.finished
  resident : before.resident = r.resident
  notes : ∃ notes, before.journal = notes ++ r.journal ∧ ∀ k data, Note.written k data ∉ notes

/-- A stage is being set going that will not be. -/
theorem AtFailure.equip (h : Undecided base r) {stage : Stage P} {effects : List Effect}
    {factory : Factory} {host : Except Failure (Host P)}
    (hspawn : r.session.factory.spawn ctx.console r.nextSpawn stage r.session.snapshot =
      (effects, factory, host)) :
    AtFailure base r (r.equip r.nextSpawn (.exported r.session.snapshot :: effects) factory) := by
  obtain ⟨hquiet, hshared⟩ := Factory.spawn_prints hspawn
  have hpipeline :
    (r.equip r.nextSpawn (.exported r.session.snapshot :: effects) factory).pipeline =
      { r.pipeline with next := r.nextSpawn + 1 } := pipeline_equip hquiet hshared
  refine ⟨?_, rfl, congrArg Pipeline.prints hpipeline, rfl, rfl, [], rfl, nofun⟩
  refine h.congr (status_equip r _ _ factory) ?_
  rw [List.filter_cons_of_pos rfl, Factory.spawn_marks hspawn]
  rfl

/-- A host that does not start has been given the backlog, and is terminated. -/
def unstarted (fresh h : Host P) (r : Run P F) : Run P F :=
  { ({ r with
      backlog := .empty
      spawned := r.spawned + 1
      session := r.session.call (fresh.call? r.pipeline.gathered) } : Run P F).note
        (.started fresh.index r.pipeline.gathered) with
    dismissed := r.dismissed ++ [h.terminate] }

theorem settle_broken {fresh h : Host P} {events : List StageEvent} {why : Failure}
    (hstart : fresh.start r.pipeline.calls r.pipeline.gathered = (h, events, some why))
    (ctx : Setting P) :
    settle ctx fresh r = failStage ctx h.command why none (r.unstarted fresh h) := by
  have hstart : fresh.start r.session.calls r.pipeline.gathered = (h, events, some why) := hstart
  unfold settle
  rw [backlog_take]
  simp only [hstart]
  rfl

theorem AtFailure.unstarted {before : Run P F} (h : AtFailure base r before)
    (fresh host : Host P) : AtFailure base r (before.unstarted fresh host) := by
  have hstarted : Undecided base (({ before with
      backlog := .empty
      spawned := before.spawned + 1
      session := before.session.call (fresh.call? before.pipeline.gathered) } : Run P F).note
        (.started fresh.index before.pipeline.gathered)) := h.undecided.same rfl
  refine ⟨hstarted.terminated host, h.files, h.prints, h.finished, h.resident, ?_⟩
  obtain ⟨notes, hjournal, hunwritten⟩ := h.notes
  refine ⟨.started fresh.index before.pipeline.gathered :: notes, congrArg (_ :: ·) hjournal, ?_⟩
  intro k data hmem
  exact hunwritten k data ((List.mem_cons.mp hmem).resolve_left nofun)

/-- Where the next stage cannot be set going the run notices it before anything else happens. -/
theorem SpawnFails.atFailure {command : String} {why : Failure} (h : SpawnFails ctx r command why)
    (hopen : Undecided base r) :
    ∃ before, AtFailure base r before ∧
      spawnStage ctx r.nextSpawn r = failStage ctx command why none before := by
  cases h with
  | unhosted hstage hspawn =>
    refine ⟨_, .equip hopen hspawn, ?_⟩
    simp only [spawnStage, hstage, hspawn]
  | @unlaunched stage effects factory fresh host events why hstage hspawn hstart =>
    have hcommand : host.command = stage.command := by
      rw [Host.command, Host.start_stage hstart, (Factory.spawn_fresh hspawn).stage]
    refine ⟨_, (AtFailure.equip hopen hspawn).unstarted fresh host, ?_⟩
    have hbroken := settle_broken
      (r := r.equip r.nextSpawn (.exported r.session.snapshot :: effects) factory) hstart ctx
    rw [hcommand] at hbroken
    simp only [spawnStage, hstage, hspawn]
    exact hbroken

theorem onEvent_failed {index : Nat} {h : Host P} (hon : r.active = true)
    (hfound : r.pipeline.host? index = some h) (ctx : Setting P) (message : String)
    (changed : Option Snapshot) (mailbox : Mailbox (Nat × StageEvent)) :
    onEvent ctx index (.failed message changed) { r with mailbox := mailbox } =
      failStage ctx h.command (.broken h.command message) changed
        (r.taken index (.failed message changed) mailbox) := by
  have hheard : (if r.active then r.host? index else none) = some h := (if_pos hon).trans hfound
  unfold onEvent
  split
  · rename_i hunheard
    cases hheard.symm.trans hunheard
  · rename_i other hother
    cases hheard.symm.trans hother
    rfl

theorem StageFails.atFailure {command : String} {why : Failure} {changed : Option Snapshot}
    {after : Run P F} (h : StageFails ctx r command why changed after) (hopen : Undecided base r) :
    ∃ before, AtFailure base r before ∧ after = failStage ctx command why changed before := by
  cases h with
  | @reported index message changed mailbox host hqueue hfound hstage =>
    have hnotes : ∀ k data, Note.written k data ∉ [Note.handled index (.failed message changed)] := by
      simp
    exact ⟨r.taken index (.failed message changed) mailbox,
      ⟨hopen.same (status_taken r _ _ _), rfl, rfl, rfl, rfl, _, rfl, hnotes⟩,
      onEvent_failed hopen.active hfound ctx message changed mailbox⟩
  | spawn h => exact h.atFailure hopen

/-! ## The decided state -/

/-- All went well from one run to the other, up to a last stage that could not be set going. -/
def EndsInSpawnFailure (ctx : Setting P) (base : Session F) (r after : Run P F) : Prop :=
  ∃ last command why, Changes ctx r last ∧ Undecided base last ∧ SpawnFails ctx last command why ∧
    after = spawnStage ctx last.nextSpawn last

theorem EndsInSpawnFailure.after {after : Run P F} (h : EndsInSpawnFailure ctx base r' after)
    (hchanges : Changes ctx r r') : EndsInSpawnFailure ctx base r after := by
  obtain ⟨last, command, why, hlast, hstuck⟩ := h
  exact ⟨last, command, why, hchanges.trans hlast, hstuck⟩

/-- The failure is the outcome. -/
theorem StageFails.outcome {command : String} {why : Failure} {changed : Option Snapshot}
    {after : Run P F} (h : StageFails ctx r command why changed after) (hopen : Undecided base r) :
    after.outcome = some (.failed why) := by
  obtain ⟨before, hnoticed, rfl⟩ := h.atFailure hopen
  obtain ⟨rep, hover, houtcome⟩ :=
    hnoticed.undecided.toUnreported.failStage hnoticed.undecided.active ctx command why changed
  rw [hover.outcome, houtcome]

end Run

end Pipework
