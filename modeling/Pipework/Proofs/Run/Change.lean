import Pipework.Proofs.Run.LineRequests

/-!
# Runs, change by change

A choice brings about a number of changes of the run (`step_changes`): a host does one act, an event
is dealt with, a stage goes or is set going, a typed line is handed out. `Changes.invariant` is how
something is shown of every reached run that its pipeline alone does not tell.
-/

namespace Pipework

namespace Run

variable {P F : Type} [Program P] [Filesystem F] {ctx : Setting P} {r : Run P F}

/-- What can happen to a run that stays active. -/
inductive Change (ctx : Setting P) (r : Run P F) : Run P F → Prop where
  /-- Something happens that is seen neither on the pipeline nor in the marks; a line may be asked
  for. -/
  | aside {r' : Run P F} (hpipeline : r'.pipeline = r.pipeline)
      (hmarks : r'.session.marks = r.session.marks)
      (hturn : r.requestState.Turn r'.requestState) : Change ctx r r'
  | worked (index : Nat) : Change ctx r (r.stepWork index)
  | dropped {index : Nat} {e : StageEvent} {mailbox : Mailbox (Nat × StageEvent)}
      (hqueue : r.pipeline.queue = (index, e) :: mailbox.toList)
      (hgone : r.pipeline.host? index = none) :
      Change ctx r { r with mailbox := mailbox }
  | data {index : Nat} {bytes : Bytes} {mailbox : Mailbox (Nat × StageEvent)} {h : Host P}
      (hqueue : r.pipeline.queue = (index, .data bytes) :: mailbox.toList)
      (hfound : r.pipeline.host? index = some h) :
      Change ctx r (onData ctx index bytes (r.taken index (.data bytes) mailbox))
  | asked {index : Nat} {mailbox : Mailbox (Nat × StageEvent)} {h : Host P}
      (hqueue : r.pipeline.queue = (index, .wantsInput) :: mailbox.toList)
      (hfound : r.pipeline.host? index = some h) :
      Change ctx r (onRequest index (r.taken index .wantsInput mailbox))
  | retired {index : Nat} {changed : Option Snapshot} {mailbox : Mailbox (Nat × StageEvent)}
      {h : Host P} (hqueue : r.pipeline.queue = (index, .ended changed) :: mailbox.toList)
      (hfound : r.pipeline.host? index = some h) (hinner : index + 1 ≠ r.stageCount) :
      Change ctx r ((r.taken index (.ended changed) mailbox).retire index changed)
  | spawned {stage : Stage P} (hstage : r.stages[r.nextSpawn]? = some stage)
      (hroom : r.resident.length < window) (hready : NextMaySpawn r.pipeline)
      (hactive : (spawnStage ctx r.nextSpawn r).active = true) :
      Change ctx r (spawnStage ctx r.nextSpawn r)
  /-- A line, or the end of them, is handed out once the first stage was set going. -/
  | line {source : LineSource} {line : Option String} (hbegun : 0 < r.nextSpawn)
      (htyped : r.session.input.isSome = true) {before : LineSource}
      (hinput : r.session.input = some before) (hreading : r.reading ≠ .idle)
      (htake : (if r.reading = .due then before.ask else before).take? = some (line, source)) :
      Change ctx r (onLine line
        (({ r with reading := .idle }.setInput source).record [.lineRead line]))

/-- Any number of changes. -/
abbrev Changes (ctx : Setting P) : Run P F → Run P F → Prop := Relation.ReflTransGen (Change ctx)

/-- What every change keeps is kept by any number of them. -/
theorem Changes.invariant {Q : Run P F → Prop}
    (hchange : ∀ {r r' : Run P F}, Change ctx r r' → Q r → Q r') {r r' : Run P F}
    (h : Changes ctx r r') (hr : Q r) : Q r' := by
  induction h with
  | refl => exact hr
  | tail _ hlast ih => exact hchange hlast ih

theorem Change.takeUp (ctx : Setting P) (r : Run P F) : Change ctx r r.takeUp :=
  .aside (pipeline_takeUp r) (congrArg Status.marks (status_takeUp r))
    (requestState_takeUp r ▸ RequestState.Turn.tookUp)

/-- Every change is a number of moves on the pipeline. -/
theorem Change.moves {r' : Run P F} (h : Change ctx r r') :
    Moves ctx.console r.pipeline r'.pipeline := by
  cases h with
  | aside hpipeline hmarks => rw [hpipeline]
  | worked index => exact (stepWork_spec ctx r index).1
  | dropped hqueue hgone => exact .single (.dropped hqueue hgone)
  | data hqueue hfound => exact .single (onData_spec (pipeline_taken r _ _ _) hqueue hfound).1
  | asked hqueue hfound => exact (onRequest_spec (pipeline_taken r _ _ _) hqueue hfound).1
  | retired hqueue hfound hinner =>
    rw [pipeline_retire, pipeline_taken]
    exact .single (.retired hqueue hfound hinner)
  | spawned hstage hroom hready hactive =>
    obtain ⟨fresh, h, events, hfresh, hstart, hpipeline⟩ := spawnStage_spec hstage hactive
    rw [hpipeline]
    exact .single (.spawned hstage hroom hready hfresh hstart)
  | @line source line hbegun htyped =>
    have hpipeline := pipeline_handedOut htyped source line
    rw [← hpipeline]
    refine (onLine_spec line ?_).1
    rw [hpipeline]
    exact htyped

/-! ## Choices as changes -/

/-- What setting stages going from the next one on comes to, with `more` turns after the first. -/
inductive FillCases (ctx : Setting P) (more : Nat) (r : Run P F) : Run P F → Prop where
  | unchanged : FillCases ctx more r r
  | failed {stage : Stage P} (hstage : r.stages[r.nextSpawn]? = some stage)
      (hoff : (spawnStage ctx r.nextSpawn r).active = false) :
      FillCases ctx more r (spawnStage ctx r.nextSpawn r)
  | one (hactive : (spawnStage ctx r.nextSpawn r).active = true)
      (hchange : Change ctx r (spawnStage ctx r.nextSpawn r)) :
      FillCases ctx more r (spawnStage ctx r.nextSpawn r)
  | several (hactive : (spawnStage ctx r.nextSpawn r).active = true)
      (hchange : Change ctx r (spawnStage ctx r.nextSpawn r))
      (hready : NextMaySpawn (spawnStage ctx r.nextSpawn r).pipeline) :
      FillCases ctx more r
        (spawnWindow ctx more (spawnStage ctx r.nextSpawn r).nextSpawn (spawnStage ctx r.nextSpawn r))

theorem spawnWindow_cases (ctx : Setting P) (more : Nat) (hready : NextMaySpawn r.pipeline) :
    FillCases ctx more r (spawnWindow ctx (more + 1) r.nextSpawn r) := by
  unfold spawnWindow
  split
  · rename_i hopen
    simp only [Bool.and_eq_true, decide_eq_true_eq] at hopen
    obtain ⟨⟨-, hroom⟩, hlt⟩ := hopen
    have hstage : r.stages[r.nextSpawn]? = some r.stages[r.nextSpawn] :=
      List.getElem?_eq_getElem hlt
    cases hspawned : (spawnStage ctx r.nextSpawn r).active with
    | false =>
      simp only [spawnWindow_of_inactive hspawned, ite_self]
      exact .failed hstage hspawned
    | true =>
      have hchange : Change ctx r (spawnStage ctx r.nextSpawn r) :=
        .spawned hstage hroom hready hspawned
      have hnext : (spawnStage ctx r.nextSpawn r).nextSpawn = r.nextSpawn + 1 := by
        obtain ⟨_, _, _, -, -, hpipeline⟩ := spawnStage_spec hstage hspawned
        exact congrArg Pipeline.next hpipeline
      simp only [← hnext]
      rw [ahead_eq]
      split
      · rename_i hahead
        refine .several hspawned hchange fun k _ hbehind => ?_
        exact absurd (hahead.symm.trans hbehind) (by decide)
      · exact .one hspawned hchange
  · exact .unchanged

theorem spawnWindow_changes : ∀ (fuel : Nat) (r : Run P F), NextMaySpawn r.pipeline →
    (spawnWindow ctx fuel r.nextSpawn r).active = true →
      Changes ctx r (spawnWindow ctx fuel r.nextSpawn r)
  | 0, _, _, _ => .refl
  | fuel + 1, r, hready, hactive => by
    have hfilling := spawnWindow_cases ctx fuel hready
    generalize spawnWindow ctx (fuel + 1) r.nextSpawn r = after at hfilling hactive ⊢
    cases hfilling with
    | unchanged => exact .refl
    | failed hstage hoff => exact absurd (hactive.symm.trans hoff) (by decide)
    | one hspawned hchange => exact .single hchange
    | several hspawned hchange hready =>
      exact .head hchange (spawnWindow_changes fuel _ hready hactive)

theorem refill_changes (hactive : (refill ctx r).active = true) : Changes ctx r (refill ctx r) := by
  unfold refill at hactive ⊢
  simp only at hactive ⊢
  split at hactive
  · rename_i hgo
    rw [if_pos hgo]
    simp only [Bool.and_eq_true] at hgo
    refine spawnWindow_changes r.stageCount r (fun k _ hbehind => ?_) hactive
    exact absurd (hgo.2.symm.trans hbehind) (by decide)
  · rename_i hstop
    rw [if_neg hstop]

/-- When an inner stage has ended and its host is gone, the window is filled again: from the next
stage on if it was the newest, and then from wherever there is room. -/
theorem onEnd_inner (ctx : Setting P) {index : Nat} {changed : Option Snapshot}
    {mailbox : Mailbox (Nat × StageEvent)} {h : Host P}
    (hqueue : r.pipeline.queue = (index, .ended changed) :: mailbox.toList)
    (hfound : r.pipeline.host? index = some h) (hordered : r.pipeline.OrderInv)
    (hinner : index + 1 ≠ r.stageCount) :
    ∃ left, Change ctx r left ∧ left.status = r.status ∧ index < left.nextSpawn ∧
      (left.nextSpawn = index + 1 → NextMaySpawn left.pipeline) ∧
      onEnd ctx index changed (r.taken index (.ended changed) mailbox) =
        refill ctx (spawnFrom ctx (index + 1) left) := by
  have hpipeline := pipeline_retire (r.taken index (.ended changed) mailbox) index changed
  have hnext : ((r.taken index (.ended changed) mailbox).retire index changed).nextSpawn =
      r.nextSpawn := congrArg Pipeline.next hpipeline
  have hinner' : index + 1 ≠ (r.taken index (.ended changed) mailbox).stageCount := hinner
  refine ⟨(r.taken index (.ended changed) mailbox).retire index changed,
    .retired hqueue hfound hinner, status_retire _ index changed, ?_, fun hnew => ?_, ?_⟩
  · rw [hnext]
    exact hordered.below index (Pipeline.mem_indices hfound)
  · intro k hk _
    have hk : index + 1 = k + 1 := hnew.symm.trans hk
    obtain rfl : index = k := Nat.succ.inj hk
    rw [hpipeline]
    exact List.mem_cons_self
  · unfold onEnd
    simp only [stageCount_retire, if_neg hinner']

theorem onEnd_changes {index : Nat} {changed : Option Snapshot}
    {mailbox : Mailbox (Nat × StageEvent)} {h : Host P}
    (hqueue : r.pipeline.queue = (index, .ended changed) :: mailbox.toList)
    (hfound : r.pipeline.host? index = some h) (hordered : r.pipeline.OrderInv)
    (hactive : (onEnd ctx index changed (r.taken index (.ended changed) mailbox)).active = true) :
    Changes ctx r (onEnd ctx index changed (r.taken index (.ended changed) mailbox)) := by
  have hinner : index + 1 ≠ r.stageCount := by
    intro hlast
    rw [onEnd_last (r := r.taken index (.ended changed) mailbox) hlast, succeed_inactive] at hactive
    cases hactive
  obtain ⟨left, hretired, -, hbelow, hready, heq⟩ :=
    onEnd_inner ctx hqueue hfound hordered hinner
  rw [heq] at hactive ⊢
  have hact : (spawnFrom ctx (index + 1) left).active = true := active_of_refill hactive
  have hspawn : Changes ctx left (spawnFrom ctx (index + 1) left) := by
    by_cases hnew : left.nextSpawn = index + 1
    · rw [← hnew] at hact ⊢
      exact spawnWindow_changes _ left (hready hnew) hact
    · rw [spawnFrom_of_lt (by omega)]
  exact .head hretired (hspawn.trans (refill_changes hactive))

theorem stepEvent_changes (hon : r.active = true) (hordered : r.pipeline.OrderInv)
    (hactive : (stepEvent ctx r).active = true) : Changes ctx r (stepEvent ctx r) := by
  have hhandled := stepEvent_cases ctx hon
  generalize stepEvent ctx r = after at hhandled hactive ⊢
  cases hhandled with
  | none => exact .refl
  | dropped hqueue hgone => exact .tail (.single (.dropped hqueue hgone)) (.takeUp ctx _)
  | data hqueue hfound => exact .tail (.single (.data hqueue hfound)) (.takeUp ctx _)
  | ended hqueue hfound =>
    rw [takeUp_active] at hactive
    exact .tail (onEnd_changes hqueue hfound hordered hactive) (.takeUp ctx _)
  | failed hqueue hfound =>
    rw [takeUp_active, failStage_inactive] at hactive
    cases hactive
  | asked hqueue hfound => exact .tail (.single (.asked hqueue hfound)) (.takeUp ctx _)

theorem stepLine_changes (ctx : Setting P) (hbegun : 0 < r.nextSpawn) (hready : r.lineReady = true) :
    Changes ctx r r.stepLine := by
  have hreading : r.reading ≠ .idle := by
    intro hidle
    simp [lineReady, hidle] at hready
  unfold stepLine
  split
  · exact .refl
  · rename_i source hsource
    have htyped : r.session.input.isSome = true := by simp [hsource]
    simp only
    split
    · rename_i htake
      exact .tail (.single (.line hbegun htyped hsource hreading htake)) (.takeUp ctx _)
    · rename_i hnone
      refine .single
        (.aside (pipeline_setInput (r := { r with reading := .waiting }) htyped _) rfl ?_)
      -- a source that a run waits for has a line whenever the choice is open
      have hdue : r.reading = .due := by
        cases hread : r.reading with
        | idle => exact absurd hread hreading
        | due => rfl
        | waiting =>
          rw [hread, if_neg (by decide)] at hnone
          simp [lineReady, hread, hsource, hnone] at hready
      rw [if_pos hdue]
      exact .waits hdue hsource

/-- **A choice after which the run is active is a number of changes.** -/
theorem step_changes (c : Choice) (hordered : r.pipeline.OrderInv) (hfilled : r.pipeline.WindowInv)
    (hactive : (step ctx r c).active = true) : Changes ctx r (step ctx r c) := by
  cases c with
  | work index =>
    simp only [step]
    split
    · exact .single (.worked index)
    · exact .refl
  | requestKill => exact .single (.aside rfl rfl .unchanged)
  | kill =>
    simp only [step] at hactive ⊢
    split at hactive
    · rw [kill_inactive] at hactive
      cases hactive
    · rename_i hoff
      rw [if_neg hoff]
  | event =>
    simp only [step] at hactive ⊢
    split at hactive
    · rename_i hon
      rw [if_pos hon]
      have hrunning : r.active = true := by
        rw [Bool.and_eq_true, Bool.and_eq_true] at hon
        exact hon.1.1
      exact stepEvent_changes hrunning hordered hactive
    · rename_i hoff
      rw [if_neg hoff]
  | line =>
    simp only [step]
    split
    · rename_i hopen
      obtain ⟨k, hk, hnext⟩ := hfilled.newest
      simp only [Bool.and_eq_true] at hopen
      exact stepLine_changes ctx (Nat.lt_of_lt_of_eq (Nat.succ_pos k) hnext.symm) hopen.2
    · exact .refl

/-! ## From the beginning -/

/-- The run of a line whose stages were found, before any of them is set going. -/
def beginning (line : String) (s : Session F) (stages : List (Stage P)) (killed : Bool) : Run P F :=
  { Run.new line s with stages := stages, active := true, killRequested := killed }

theorem reached_beginning {line : String} {s : Session F} {parsed : List Statement}
    {effects : List Effect} {stages : List (Stage P)} (hparse : ctx.parse line = .ok parsed)
    (hresolve : ctx.resolver.statements s.requests parsed = (effects, .ok stages)) (killed : Bool) :
    reached ctx line s killed [] =
      if killed then (beginning line (s.record effects) stages killed).kill
      else (spawnFrom ctx 0 (beginning line (s.record effects) stages killed)).takeUp := by
  unfold reached
  rw [prepare_eq hparse hresolve]
  rfl

/-- **A reached run that is active came about by changes.** -/
theorem reached_changes {line : String} {s : Session F} {killed : Bool} {choices : List Choice}
    (hactive : (reached ctx line s killed choices).active = true) :
    ∃ statements effects stages, ctx.parse line = .ok statements ∧
      ctx.resolver.statements s.requests statements = (effects, .ok stages) ∧
      Changes ctx (beginning line (s.record effects) stages killed)
        (reached ctx line s killed choices) := by
  induction choices using List.reverseRecOn with
  | nil =>
    have hreport : ((Run.new line s).prepare ctx).report = none := by
      cases hreport : ((Run.new line s).prepare ctx).report with
      | none => rfl
      | some report =>
        simp only [reached, steps, List.foldl_nil, activate, hreport, Option.isSome_some, if_true]
          at hactive
        exact absurd (hactive.symm.trans (prepare_inactive line s)) (by decide)
    obtain ⟨statements, effects, stages, hparse, hresolve, -⟩ := prepare_spec hreport
    refine ⟨statements, effects, stages, hparse, hresolve, ?_⟩
    rw [reached_beginning hparse hresolve] at hactive ⊢
    split at hactive
    · rw [kill_inactive] at hactive
      cases hactive
    · rename_i hgo
      rw [if_neg hgo]
      rw [takeUp_active] at hactive
      refine .tail (spawnWindow_changes _ _ (fun k hk _ => ?_) hactive) (.takeUp ctx _)
      exact absurd hk (Nat.succ_ne_zero k).symm
  | append_singleton choices c ih =>
    rw [reached_concat] at hactive ⊢
    have hbefore := active_of_step hactive
    obtain ⟨statements, effects, stages, hparse, hresolve, hchanges⟩ := ih hbefore
    obtain ⟨_, _, _, -, -, -, hfilled⟩ := reached_spec hbefore
    exact ⟨statements, effects, stages, hparse, hresolve,
      hchanges.trans (step_changes c (reached_orderInv hbefore) hfilled hactive)⟩

end Run

end Pipework
