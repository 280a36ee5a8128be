import Mathlib.Data.List.Induction
import Pipework.FileStore
import Pipework.Proofs.Chains
import Pipework.Proofs.Run.Steps
import Pipework.Settings.Session

/-!
# Reached runs

`reached` is a run of a line after any list of choices. While such a run is active its pipeline has
come about by moves from the opening pipeline, so every pipeline invariant holds of it, and its
window is filled (`reached_spec`).
-/

namespace Pipework

theorem Resolver.chain_ne_nil {P : Type} (r : Resolver P) {past : List Request}
    {commands : List Command} {effects : List Effect} {stages : List (Stage P)}
    (hne : commands ≠ [])
    (h : r.chain past commands = (effects, .ok stages)) : stages ≠ [] := by
  cases commands with
  | nil => exact absurd rfl hne
  | cons c rest =>
    unfold chain at h
    split at h
    · cases h
    · split at h
      · cases h
      · cases h
        exact List.cons_ne_nil _ _

/-- A line that is resolved has at least one stage. -/
theorem Resolver.statements_ne_nil {P : Type} {r : Resolver P} {past : List Request}
    {parsed : List Statement} {effects : List Effect} {stages : List (Stage P)}
    (h : r.statements past parsed = (effects, .ok stages)) : stages ≠ [] := by
  unfold statements at h
  split at h
  · cases h
  · exact chain_ne_nil r (Command.chain_ne_nil _) h
  · cases h
  · cases h

namespace Run

variable {P F : Type} [Program P] [Filesystem F] {ctx : Setting P} {r : Run P F}

/-! ## Steps as moves -/

theorem onRequest_spec {s : Pipeline P F} {index : Nat} {h : Host P}
    {rest : List (Nat × StageEvent)} (hpipeline : r.pipeline = s.handle index .wantsInput rest)
    (hqueue : s.queue = (index, .wantsInput) :: rest) (hfound : s.host? index = some h) :
    Moves ctx.console s (onRequest index r).pipeline ∧
    Pipeline.SameIndices s (onRequest index r).pipeline := by
  have hasked : Moves ctx.console s r.pipeline ∧ Pipeline.SameIndices s r.pipeline := by
    rw [hpipeline]
    exact ⟨.single (.asked hqueue hfound), ⟨rfl, rfl, rfl, rfl⟩⟩
  unfold onRequest
  split
  · rename_i reader hreader
    split
    · refine ⟨hasked.1.tail (.closed hreader), ?_⟩
      obtain ⟨hstages, hshared, hindices, hnext⟩ := hasked.2
      exact ⟨hstages, hshared, (Pipeline.setHost_indices _ _).trans hindices, hnext⟩
    · exact hasked
  · exact hasked

theorem onLine_spec (line : Option String) (htyped : r.pipeline.typed = true) :
    Moves ctx.console r.pipeline (onLine line r).pipeline ∧
      Pipeline.SameIndices r.pipeline (onLine line r).pipeline := by
  unfold onLine
  split
  · exact ⟨.refl, ⟨rfl, rfl, rfl, rfl⟩⟩
  · rename_i h text hreader
    simp only
    split
    · rename_i h' hwrite
      exact ⟨.single (.typed htyped hreader hwrite),
        ⟨rfl, rfl, Pipeline.setHost_indices r.pipeline h', rfl⟩⟩
    · rename_i why hwrite
      exact ⟨.single (.rejected htyped hreader hwrite), ⟨rfl, rfl, rfl, rfl⟩⟩
  · rename_i h hreader
    exact ⟨.single (.closed hreader),
      ⟨rfl, rfl, Pipeline.setHost_indices r.pipeline h.closeInput, rfl⟩⟩

theorem stepWork_spec (ctx : Setting P) (r : Run P F) (index : Nat) :
    Moves ctx.console r.pipeline (r.stepWork index).pipeline ∧
      Pipeline.SameIndices r.pipeline (r.stepWork index).pipeline := by
  unfold stepWork
  split
  · exact ⟨.refl, ⟨rfl, rfl, rfl, rfl⟩⟩
  · rename_i h hfound
    split
    · exact ⟨.refl, ⟨rfl, rfl, rfl, rfl⟩⟩
    · rename_i h' events hstep
      have hindex : h.index = index := Pipeline.host?_index (s := r.pipeline) hfound
      subst hindex
      rw [pipeline_post, pipeline_setHost]
      exact ⟨.single (.worked hfound hstep),
        ⟨rfl, rfl, Pipeline.setHost_indices r.pipeline h', rfl⟩⟩

theorem stepLine_spec (ctx : Setting P) (r : Run P F) :
    Moves ctx.console r.pipeline r.stepLine.pipeline ∧
    Pipeline.SameIndices r.pipeline r.stepLine.pipeline := by
  unfold stepLine
  split
  · exact ⟨.refl, ⟨rfl, rfl, rfl, rfl⟩⟩
  · rename_i source hsource
    have htyped : r.session.input.isSome = true := by simp [hsource]
    simp only
    split
    · rename_i line after _
      have hpipeline := pipeline_handedOut htyped after line
      rw [pipeline_takeUp, ← hpipeline]
      refine onLine_spec line ?_
      rw [hpipeline]
      exact htyped
    · have hpipeline : ({ r with reading := .waiting }.setInput
          (if r.reading = Run.Reading.due then source.ask else source)).pipeline = r.pipeline :=
        pipeline_setInput (r := { r with reading := .waiting }) htyped _
      rw [hpipeline]
      exact ⟨.refl, ⟨rfl, rfl, rfl, rfl⟩⟩

/-- The run with its front event taken out of the queue to be dealt with. -/
def taken (r : Run P F) (index : Nat) (e : StageEvent) (mailbox : Mailbox (Nat × StageEvent)) :
    Run P F :=
  { r with mailbox := mailbox }.note (.handled index e)

theorem pipeline_taken (r : Run P F) (index : Nat) (e : StageEvent)
    (mailbox : Mailbox (Nat × StageEvent)) :
    (r.taken index e mailbox).pipeline = r.pipeline.handle index e mailbox.toList := rfl

/-- What handling an event of an active run can come to. -/
inductive EventCases (ctx : Setting P) (r : Run P F) : Run P F → Prop where
  | none : EventCases ctx r r
  | dropped {index : Nat} {e : StageEvent} {mailbox : Mailbox (Nat × StageEvent)}
      (hqueue : r.pipeline.queue = (index, e) :: mailbox.toList)
      (hgone : r.pipeline.host? index = none) :
      EventCases ctx r ({ r with mailbox := mailbox } : Run P F).takeUp
  | data {index : Nat} {bytes : Bytes} {mailbox : Mailbox (Nat × StageEvent)} {h : Host P}
      (hqueue : r.pipeline.queue = (index, .data bytes) :: mailbox.toList)
      (hfound : r.pipeline.host? index = some h) :
      EventCases ctx r (onData ctx index bytes (r.taken index (.data bytes) mailbox)).takeUp
  | ended {index : Nat} {changed : Option Snapshot} {mailbox : Mailbox (Nat × StageEvent)}
      {h : Host P} (hqueue : r.pipeline.queue = (index, .ended changed) :: mailbox.toList)
      (hfound : r.pipeline.host? index = some h) :
      EventCases ctx r (onEnd ctx index changed (r.taken index (.ended changed) mailbox)).takeUp
  | failed {index : Nat} {message : String} {changed : Option Snapshot}
      {mailbox : Mailbox (Nat × StageEvent)} {h : Host P}
      (hqueue : r.pipeline.queue = (index, .failed message changed) :: mailbox.toList)
      (hfound : r.pipeline.host? index = some h) :
      EventCases ctx r (failStage ctx h.command (.broken h.command message) changed
        (r.taken index (.failed message changed) mailbox)).takeUp
  | asked {index : Nat} {mailbox : Mailbox (Nat × StageEvent)} {h : Host P}
      (hqueue : r.pipeline.queue = (index, .wantsInput) :: mailbox.toList)
      (hfound : r.pipeline.host? index = some h) :
      EventCases ctx r (onRequest index (r.taken index .wantsInput mailbox)).takeUp

theorem stepEvent_cases (ctx : Setting P) (hon : r.active = true) :
    EventCases ctx r (stepEvent ctx r) := by
  unfold stepEvent
  split
  · exact .none
  · rename_i index e mailbox htake
    have hqueue : r.pipeline.queue = (index, e) :: mailbox.toList := Mailbox.take?_eq_some htake
    unfold onEvent
    split
    · rename_i hgone
      exact .dropped hqueue ((if_pos hon).symm.trans hgone)
    · rename_i h hresident
      have hfound : r.pipeline.host? index = some h := (if_pos hon).symm.trans hresident
      cases e with
      | data bytes => exact .data hqueue hfound
      | ended changed => exact .ended hqueue hfound
      | failed message changed => exact .failed hqueue hfound
      | wantsInput => exact .asked hqueue hfound

theorem stepEvent_spec (hon : r.active = true) (hordered : r.pipeline.OrderInv)
    (hfilled : r.pipeline.WindowInv) (hactive : (stepEvent ctx r).active = true) :
    Moves ctx.console r.pipeline (stepEvent ctx r).pipeline ∧
    (stepEvent ctx r).pipeline.WindowInv := by
  have hhandled := stepEvent_cases ctx hon
  generalize stepEvent ctx r = after at hhandled hactive ⊢
  cases hhandled with
  | none => exact ⟨.refl, hfilled⟩
  | @dropped index e mailbox hqueue hgone =>
    have hmove : Move ctx.console r.pipeline ({ r with mailbox := mailbox } : Run P F).pipeline :=
      .dropped hqueue hgone
    rw [pipeline_takeUp]
    exact ⟨.single hmove, hfilled.congr ⟨rfl, rfl, rfl, rfl⟩⟩
  | data hqueue hfound =>
    obtain ⟨hmove, halike⟩ := onData_spec (pipeline_taken r _ _ _) hqueue hfound
    rw [pipeline_takeUp]
    exact ⟨.single hmove, hfilled.congr halike⟩
  | ended hqueue hfound =>
    rw [takeUp_active] at hactive
    rw [pipeline_takeUp]
    exact onEnd_spec (pipeline_taken r _ _ _) hqueue hfound hordered hfilled.newest hactive
  | failed hqueue hfound =>
    rw [takeUp_active, failStage_inactive] at hactive
    cases hactive
  | asked hqueue hfound =>
    obtain ⟨hmoves, halike⟩ := onRequest_spec (pipeline_taken r _ _ _) hqueue hfound
    rw [pipeline_takeUp]
    exact ⟨hmoves, hfilled.congr halike⟩

/-- **A step after which the run is active is a number of moves**, and leaves the window filled. -/
theorem step_moves (c : Choice) (hordered : r.pipeline.OrderInv) (hfilled : r.pipeline.WindowInv)
    (hactive : (step ctx r c).active = true) :
    Moves ctx.console r.pipeline (step ctx r c).pipeline ∧ (step ctx r c).pipeline.WindowInv := by
  cases c with
  | work index =>
    simp only [step] at hactive ⊢
    split
    · obtain ⟨hmoves, halike⟩ := stepWork_spec ctx r index
      exact ⟨hmoves, hfilled.congr halike⟩
    · exact ⟨.refl, hfilled⟩
  | requestKill => exact ⟨.refl, hfilled.congr ⟨rfl, rfl, rfl, rfl⟩⟩
  | kill =>
    simp only [step] at hactive ⊢
    split at hactive
    · rw [kill_inactive] at hactive
      cases hactive
    · rename_i hoff
      rw [if_neg hoff]
      exact ⟨.refl, hfilled⟩
  | event =>
    simp only [step] at hactive ⊢
    split at hactive
    · rename_i hon
      rw [if_pos hon]
      have hrunning : r.active = true := by
        rw [Bool.and_eq_true, Bool.and_eq_true] at hon
        exact hon.1.1
      exact stepEvent_spec hrunning hordered hfilled hactive
    · rename_i hoff
      rw [if_neg hoff]
      exact ⟨.refl, hfilled⟩
  | line =>
    simp only [step] at hactive ⊢
    split
    · obtain ⟨hmoves, halike⟩ := stepLine_spec ctx r
      exact ⟨hmoves, hfilled.congr halike⟩
    · exact ⟨.refl, hfilled⟩

/-- A run that is over stays over. -/
theorem step_of_inactive (c : Choice) (h : r.active = false) : (step ctx r c).active = false := by
  cases c <;> simp [step, h]

/-- A run that is over is not changed by a choice. -/
theorem step_inactive {choice : Choice} (hchoice : choice ≠ .requestKill) (hoff : r.active = false) :
    step ctx r choice = r := by
  cases choice with
  | requestKill => exact absurd rfl hchoice
  | _ => simp [step, hoff]

theorem active_of_step {c : Choice} (h : (step ctx r c).active = true) : r.active = true := by
  cases hr : r.active with
  | true => rfl
  | false => exact absurd ((step_of_inactive c hr).symm.trans h) (by decide)

theorem steps_append (r : Run P F) (choices more : List Choice) :
    steps ctx r (choices ++ more) = steps ctx (steps ctx r choices) more := List.foldl_append

theorem steps_concat (r : Run P F) (choices : List Choice) (c : Choice) :
    steps ctx r (choices ++ [c]) = step ctx (steps ctx r choices) c := steps_append r choices [c]

/-! ## From the beginning -/

/-- A run of a line after a list of choices; `killed` tells whether a kill was requested before the
run was active. -/
def reached (ctx : Setting P) (line : String) (s : Session F) (killed : Bool)
    (choices : List Choice) : Run P F :=
  steps ctx (activate ctx { (Run.new line s).prepare ctx with killRequested := killed }) choices

theorem reached_concat (ctx : Setting P) (line : String) (s : Session F) (killed : Bool)
    (choices : List Choice) (c : Choice) : reached ctx line s killed (choices ++ [c]) =
      step ctx (reached ctx line s killed choices) c :=
  steps_concat _ _ _

/-- The pipeline on which no stage has been set going. -/
def Pipeline.opening (stages : List (Stage P)) (s : Session F) : Pipeline P F where
  stages := stages
  sharedMemory := s.factory.sharedMemory
  typed := s.input.isSome
  files := s.files
  finished := []
  resident := []
  backlog := []
  next := 0
  queue := []
  journal := []
  prints := s.prints
  calls := s.calls

theorem Pipeline.OrderInv.opening (stages : List (Stage P)) (s : Session F) :
    (Pipeline.opening stages s).OrderInv where
  next_le := Nat.zero_le _
  ascending := .nil
  below := nofun
  room := Nat.zero_le _
  over_lt := nofun
  placed := nofun
  started := rfl
  ended := fun k => by simp [Pipeline.opening, Journal.hasEnded]

/-- What preparing a line that can be run comes to. -/
theorem prepare_eq {line : String} {s : Session F} {statements : List Statement}
    {resolved : List Effect} {stages : List (Stage P)}
    (hparse : ctx.parse line = .ok statements)
    (hresolve : ctx.resolver.statements s.requests statements = (resolved, .ok stages)) :
    (Run.new line s).prepare ctx = { Run.new line (s.record resolved) with stages := stages } := by
  unfold prepare
  simp only [Run.new, Option.isSome_none, Bool.false_eq_true, if_false, hparse, hresolve]
  rfl

/-- What preparing can come to: a run that has reported stays as it is, its line is refused, or its
stages are found. -/
inductive PrepareCases (ctx : Setting P) (r : Run P F) : Run P F → Prop where
  | reported (hreport : r.report.isSome = true) : PrepareCases ctx r r
  | unreadable {why : Fault} (hparse : ctx.parse r.line = .error why) :
      PrepareCases ctx r (prepare.refuse ctx (.unreadable why.full) r)
  | unresolved {parsed : List Statement} {effects : List Effect} {why : Failure}
      (hparse : ctx.parse r.line = .ok parsed)
      (hresolve : ctx.resolver.statements r.session.requests parsed = (effects, .error why)) :
      PrepareCases ctx r (prepare.refuse ctx why (r.record effects))
  | ready {parsed : List Statement} {effects : List Effect} {stages : List (Stage P)}
      (hparse : ctx.parse r.line = .ok parsed)
      (hresolve : ctx.resolver.statements r.session.requests parsed = (effects, .ok stages)) :
      PrepareCases ctx r { r.record effects with stages := stages }

theorem prepare_cases (ctx : Setting P) (r : Run P F) : PrepareCases ctx r (r.prepare ctx) := by
  unfold prepare
  split
  · rename_i hreport
    exact .reported hreport
  · split
    · rename_i why hparse
      exact .unreadable hparse
    · rename_i parsed hparse
      simp only
      generalize hresolve : ctx.resolver.statements r.session.requests parsed = made
      obtain ⟨effects, why | stages⟩ := made
      · exact .unresolved hparse hresolve
      · exact .ready hparse hresolve

theorem refuse_active (ctx : Setting P) (why : Failure) (r : Run P F) :
    (prepare.refuse ctx why r).active = r.active := complete_active _

theorem refuse_report (ctx : Setting P) (why : Failure) (r : Run P F) :
    (prepare.refuse ctx why r).report ≠ none := by
  unfold prepare.refuse complete
  simp only
  split
  · rename_i rep hreport
    exact fun hnone => nomatch hreport.symm.trans hnone
  · simp [record]

/-- A run that preparing did not end has its stages. -/
theorem prepare_spec {line : String} {s : Session F}
    (h : ((Run.new line s : Run P F).prepare ctx).report = none) :
    ∃ statements effects stages, ctx.parse line = .ok statements ∧
      ctx.resolver.statements s.requests statements = (effects, .ok stages) ∧
      (Run.new line s).prepare ctx = { Run.new line (s.record effects) with stages := stages } := by
  have hprepared := prepare_cases ctx (Run.new line s)
  generalize (Run.new line s).prepare ctx = r at h hprepared ⊢
  cases hprepared with
  | reported hreport => cases hreport
  | unreadable hparse => exact absurd h (refuse_report _ _ _)
  | unresolved hparse hresolve => exact absurd h (refuse_report _ _ _)
  | ready hparse hresolve => exact ⟨_, _, _, hparse, hresolve, rfl⟩

theorem prepare_inactive (line : String) (s : Session F) :
    ((Run.new line s).prepare ctx).active = false := by
  have hprepared := prepare_cases ctx (Run.new line s)
  generalize (Run.new line s).prepare ctx = r at hprepared ⊢
  cases hprepared with
  | reported hreport => cases hreport
  | unreadable hparse => exact refuse_active _ _ _
  | unresolved hparse hresolve => exact refuse_active _ _ _
  | ready hparse hresolve => rfl

/-- A run that becomes active has its first stages going. -/
theorem activate_spec {line : String} {s : Session F} {stages : List (Stage P)} {killed : Bool}
    (hne : stages ≠ [])
    (hactive : (activate ctx { Run.new line s with stages := stages, killRequested := killed }).active =
      true) :
    Moves ctx.console (.opening stages s)
        (activate ctx { Run.new line s with stages := stages, killRequested := killed }).pipeline ∧
      (activate ctx
        { Run.new line s with stages := stages, killRequested := killed }).pipeline.WindowInv := by
  unfold activate at hactive ⊢
  simp only [Run.new, Option.isSome_none, Bool.false_eq_true, if_false] at hactive ⊢
  cases killed with
  | true =>
    simp only [if_true, kill_inactive] at hactive
    cases hactive
  | false =>
    simp only [Bool.false_eq_true, if_false, takeUp_active, pipeline_takeUp] at hactive ⊢
    generalize hr : ({ Run.new line s with stages := stages, active := true } : Run P F) = r
    have hpipeline : r.pipeline = .opening stages s := by
      rw [← hr]
      rfl
    have hpos : 0 < stages.length := List.length_pos_iff.mpr hne
    have hcount : r.stageCount = stages.length := congrArg (fun t => t.stages.length) hpipeline
    have hnext : r.nextSpawn = 0 := congrArg Pipeline.next hpipeline
    have hready : NextMaySpawn r.pipeline := by
      intro k hk _
      exact absurd (hnext.symm.trans hk) (Nat.succ_ne_zero k).symm
    have hspawn : (spawnWindow ctx r.stageCount r.nextSpawn r).active = true := by
      rw [hnext, ← hr]
      exact hactive
    obtain ⟨hmoves, hnewest, hfull⟩ := spawnWindow_spec r.stageCount r hready hspawn
    have hempty : r.resident.length = 0 := congrArg (fun t => t.resident.length) hpipeline
    rw [hpipeline, hnext] at hmoves
    rw [hnext] at hnewest hfull
    have hfilled := Pipeline.WindowInv.mk (hnewest (Or.inr ⟨by omega, by omega, by
      rw [hempty]
      exact Nat.zero_lt_two⟩)) (hfull (Or.inr (by omega)))
    rw [← hr] at hmoves hfilled
    exact ⟨hmoves, hfilled⟩

/-- **The pipeline of a reached run that is active came about by moves**, and its window is filled.
-/
theorem reached_spec {line : String} {s : Session F} {killed : Bool} {choices : List Choice}
    (hactive : (reached ctx line s killed choices).active = true) :
    ∃ statements effects stages, ctx.parse line = .ok statements ∧
      ctx.resolver.statements s.requests statements = (effects, .ok stages) ∧
      Moves ctx.console (.opening stages (s.record effects))
        (reached ctx line s killed choices).pipeline ∧
      (reached ctx line s killed choices).pipeline.WindowInv := by
  unfold reached at hactive ⊢
  induction choices using List.reverseRecOn with
  | nil =>
    simp only [steps, List.foldl_nil] at hactive ⊢
    have hreport : ((Run.new line s).prepare ctx).report = none := by
      cases hreport : ((Run.new line s).prepare ctx).report with
      | none => rfl
      | some report =>
        simp only [activate, hreport, Option.isSome_some, if_true] at hactive
        exact absurd (hactive.symm.trans (prepare_inactive line s)) (by decide)
    obtain ⟨statements, effects, stages, hparse, hresolve, hprepared⟩ := prepare_spec hreport
    rw [hprepared] at hactive ⊢
    obtain ⟨hmoves, hfilled⟩ := activate_spec (Resolver.statements_ne_nil hresolve) hactive
    exact ⟨statements, effects, stages, hparse, hresolve, hmoves, hfilled⟩
  | append_singleton choices c ih =>
    rw [steps_concat] at hactive ⊢
    obtain ⟨statements, effects, stages, hparse, hresolve, hmoves, hfilled⟩ :=
      ih (active_of_step hactive)
    have hordered := Moves.invariant (fun hm ho => Pipeline.OrderInv.move hm ho) hmoves
      (Pipeline.OrderInv.opening stages (s.record effects))
    obtain ⟨hmoves', hfilled'⟩ := step_moves c hordered hfilled hactive
    exact ⟨statements, effects, stages, hparse, hresolve, hmoves.trans hmoves', hfilled'⟩

theorem reached_orderInv {line : String} {s : Session F} {killed : Bool} {choices : List Choice}
    (hactive : (reached ctx line s killed choices).active = true) :
    (reached ctx line s killed choices).pipeline.OrderInv := by
  obtain ⟨_, effects, stages, -, -, hmoves, -⟩ := reached_spec hactive
  exact Moves.invariant (fun hm ho => Pipeline.OrderInv.move hm ho) hmoves
    (Pipeline.OrderInv.opening stages (s.record effects))

end Run

/-! ## Settings with given stages -/

/-- The pipe behind the `k`-th of a row of commands, told apart by how many words they have. -/
def Redirects.row (k : Nat) : Nat → Redirects
  | 0 => .nil
  | more + 1 => .pipe (.mk "" (List.replicate (k + 1) "") [] (row (k + 1) more)) .nil

/-- A setting in which every line stands for the given stages. -/
def Setting.fixed {P : Type} (stages : List (Stage P)) (console : Console) (mergeOnError : Bool) :
    Setting P where
  parse _ := .ok [.command (.mk "" [] [] (.row 0 (stages.length - 1)))]
  resolver :=
    { find := fun _ q =>
        match stages[q.args.length - 1]? with
        | some stage => .ok (.stage stage)
        | none => .error (.of "command not found")
      compiler := none
      console := console }
  mergeOnError := mergeOnError

/-- A session over an empty store whose programs run alongside each other. -/
def Session.streaming (capacity : Nat) : Session FileStore :=
  ⟨.empty, .make (some (.threads 65536)) true capacity, none, [], []⟩

/-- A session over an empty store whose stages follow one another. -/
def Session.sequential : Session FileStore := ⟨.empty, .inlineOnly, none, [], []⟩

end Pipework
