import Pipework.Proofs.Run.Change
import Pipework.Routine.Basic

/-!
# Completing once

A run that is active has reported nothing (`Undecided`), and one that is not has reported exactly
once (`EndedWith`): whichever way it ended, its report went out one time, every host was terminated,
and nothing that is asked of it later changes anything but whether a kill was requested.

* `Undecided.step` — a choice leaves a run open, or over without success, or the last stage has
  ended.
* `completes_once` — the whole life of a run: before, while it is active, and when it is over.
-/

namespace Pipework

namespace Run

variable {P F : Type} [Program P] [Filesystem F] {ctx : Setting P} {base : Session F}
  {r r' : Run P F}

/-! ## Open and over -/

/-- Nothing was reported since the session was `base`; hosts that were dismissed are terminated. -/
structure Unreported (base : Session F) (r : Run P F) : Prop where
  report : r.report = none
  completions : r.completions = 0
  reports : r.session.reports = base.reports
  dismissed : ∀ h ∈ r.dismissed, h.TornDown

/-- The run is active and how it will end is not decided. -/
structure Undecided (base : Session F) (r : Run P F) : Prop extends Unreported base r where
  active : r.active = true
  outcome : r.outcome = none

/-- The run has ended with a report, which went out once, and no host is left. -/
structure EndedWith (base : Session F) (rep : Report) (r : Run P F) : Prop where
  active : r.active = false
  report : r.report = some rep
  outcome : r.outcome = some rep.outcome
  completions : r.completions = 1
  reports : r.session.reports = base.reports ++ [rep]
  resident : r.resident = []
  dismissed : ∀ h ∈ r.dismissed, h.TornDown

theorem Unreported.congr (h : Unreported base r) {more : List Effect}
    (hstatus : r'.status = r.status.mark more)
    (hmore : more.filterMap Effect.report? = []) : Unreported base r' where
  report := (congrArg Status.report hstatus).trans h.report
  completions := (congrArg Status.completions hstatus).trans h.completions
  reports := by
    have hmarks : r'.session.marks = r.session.marks ++ more := congrArg Status.marks hstatus
    rw [Session.reports_append hmarks, hmore, List.append_nil, h.reports]
  dismissed := by
    have hdismissed : r'.dismissed = r.dismissed := congrArg Status.dismissed hstatus
    rw [hdismissed]
    exact h.dismissed

theorem Undecided.congr (h : Undecided base r) {more : List Effect}
    (hstatus : r'.status = r.status.mark more)
    (hmore : more.filterMap Effect.report? = []) : Undecided base r' where
  toUnreported := h.toUnreported.congr hstatus hmore
  active := (congrArg Status.active hstatus).trans h.active
  outcome := (congrArg Status.outcome hstatus).trans h.outcome

theorem Undecided.same (h : Undecided base r) (hstatus : r'.status = r.status) :
    Undecided base r' := by
  have hmark : r'.status = r.status.mark [] := hstatus.trans (Status.mark_nil _).symm
  exact h.congr hmark rfl

/-! ## Ways to end -/

/-- Closing a run with nobody resident reports how it ended. -/
theorem Unreported.complete (h : Unreported base r) {o : Outcome} (hactive : r.active = false)
    (houtcome : r.outcome = some o) (hresident : r.resident = []) :
    ∃ rep, EndedWith base rep r.complete ∧ rep.outcome = o := by
  unfold Run.complete
  rw [h.report]
  simp only [houtcome, Option.getD_some]
  refine ⟨_, ⟨hactive, rfl, rfl, ?_, ?_, hresident, h.dismissed⟩, rfl⟩
  · exact congrArg (· + 1) h.completions
  · rw [← h.reports]
    simp [Session.reports, record, Session.record, Effect.report?]

theorem Unreported.dismissAll (h : Unreported base r) : Unreported base r.dismissAll where
  report := h.report
  completions := h.completions
  reports := h.reports
  dismissed := by
    intro host hhost
    rcases List.mem_append.mp hhost with hold | hnew
    · exact h.dismissed host hold
    · obtain ⟨live, -, rfl⟩ := List.mem_map.mp hnew
      exact live.terminate_tornDown

/-- **A kill ends an active run**, killed unless something else was decided before. -/
theorem Unreported.kill (h : Unreported base r) (hactive : r.active = true) :
    ∃ rep, EndedWith base rep r.kill ∧ rep.outcome = r.outcome.getD .killed := by
  have hd := h.dismissAll
  unfold Run.kill
  rw [if_pos hactive]
  refine Unreported.complete (r := { r.dismissAll with
    backlog := .empty, active := false, outcome := some (r.outcome.getD .killed) }) ?_ rfl rfl rfl
  exact ⟨hd.report, hd.completions, hd.reports, hd.dismissed⟩

theorem Unreported.succeed (h : Unreported base r) :
    ∃ rep, EndedWith base rep r.succeed ∧ rep.outcome = .completed := by
  have hd := h.dismissAll
  refine Unreported.complete (r := { r.dismissAll with
    active := false, outcome := some .completed }) ?_ rfl rfl rfl
  exact ⟨hd.report, hd.completions, hd.reports, hd.dismissed⟩

theorem Unreported.failStage (h : Unreported base r) (hactive : r.active = true) (ctx : Setting P)
    (command : String) (why : Failure) (changed : Option Snapshot) :
    ∃ rep, EndedWith base rep (failStage ctx command why changed r) ∧
      rep.outcome = .failed why := by
  have hprint : (r.record (ctx.console.print (why.notice command))).status = r.status.mark [] := by
    rw [status_record, Console.print_marks]
  unfold Run.failStage
  rw [if_pos hactive]
  simp only
  split
  · have hmerge := h.congr ((status_merge _ changed).trans hprint) rfl
    have hon : (Run.merge (r.record (ctx.console.print (why.notice command))) changed).active =
        true := (congrArg Status.active ((status_merge _ changed).trans hprint)).trans hactive
    exact Unreported.kill ⟨hmerge.report, hmerge.completions, hmerge.reports, hmerge.dismissed⟩ hon
  · have hrecord := h.congr hprint rfl
    exact Unreported.kill ⟨hrecord.report, hrecord.completions, hrecord.reports, hrecord.dismissed⟩
      hactive

theorem EndedWith.takeUp {rep : Report} (h : EndedWith base rep r) :
    EndedWith base rep r.takeUp := by
  unfold Run.takeUp
  split
  · exact { h with }
  · exact h

/-! ## Going on -/

/-- The run is still open, or it is over without success. -/
def UndecidedOrFailed (base : Session F) (r : Run P F) : Prop :=
  Undecided base r ∨ ∃ rep, EndedWith base rep r ∧ rep.outcome ≠ .completed

theorem UndecidedOrFailed.takeUp (h : UndecidedOrFailed base r) :
    UndecidedOrFailed base r.takeUp := by
  rcases h with hopen | ⟨rep, hover, hne⟩
  · exact Or.inl (hopen.same (status_takeUp r))
  · exact Or.inr ⟨rep, hover.takeUp, hne⟩

theorem Undecided.failStage (h : Undecided base r) (ctx : Setting P) (command : String)
    (why : Failure)
    (changed : Option Snapshot) : UndecidedOrFailed base (failStage ctx command why changed r) := by
  obtain ⟨rep, hover, houtcome⟩ := h.toUnreported.failStage h.active ctx command why changed
  refine Or.inr ⟨rep, hover, ?_⟩
  rw [houtcome]
  exact nofun

theorem UndecidedOrFailed.isOpen (h : UndecidedOrFailed base r) (hactive : r.active = true) :
    Undecided base r := by
  rcases h with hopen | ⟨rep, hover, -⟩
  · exact hopen
  · exact absurd (hactive.symm.trans hover.active) (by decide)

/-- A host that was made may be terminated before it is resident. -/
theorem Undecided.terminated (h : Undecided base r) (host : Host P) :
    Undecided base { r with dismissed := r.dismissed ++ [host.terminate] } := by
  refine ⟨⟨h.report, h.completions, h.reports, ?_⟩, h.active, h.outcome⟩
  intro other hother
  rcases List.mem_append.mp hother with hold | hnew
  · exact h.dismissed other hold
  · rw [List.mem_singleton.mp hnew]
    exact host.terminate_tornDown

/-- A stage that cannot be set going ends the run. -/
theorem Undecided.settle (h : Undecided base r) (ctx : Setting P) (host : Host P) :
    UndecidedOrFailed base (settle ctx host r) := by
  unfold Run.settle
  simp only
  split
  · -- the host was made, so it is terminated like the others
    rename_i started events why _
    have hstarted : ∀ backlog call n, Undecided base
        ({ r with
          backlog := backlog
          spawned := r.spawned + 1
          session := r.session.call call }.note n) := fun _ _ _ => h.same rfl
    exact Undecided.failStage ((hstarted _ _ _).terminated started) ctx _ why none
  · refine Or.inl (Undecided.same (r := r) h ?_)
    exact status_takeIn _ _ _

theorem Undecided.spawnStage (h : Undecided base r) (ctx : Setting P) (index : Nat) :
    UndecidedOrFailed base (spawnStage ctx index r) := by
  unfold Run.spawnStage
  split
  · exact Or.inl h
  · rename_i stage _
    simp only
    generalize hspawn : r.session.factory.spawn ctx.console index stage _ = made
    obtain ⟨effects, factory, result⟩ := made
    have hequip :=
      h.congr (status_equip r index (.exported r.session.snapshot :: effects) factory)
      (by rw [List.filter_cons_of_pos rfl, Factory.spawn_marks hspawn]; rfl)
    cases result with
    | ok host => exact hequip.settle ctx host
    | error why => exact hequip.failStage ctx _ why none

theorem Undecided.spawnWindow (ctx : Setting P) :
    ∀ (fuel index : Nat) {r : Run P F}, Undecided base r →
    UndecidedOrFailed base (spawnWindow ctx fuel index r)
  | 0, _, _, h => Or.inl h
  | fuel + 1, index, r, h => by
    unfold Run.spawnWindow
    split
    · simp only
      rcases h.spawnStage ctx index with hopen | hbroken
      · split
        · exact Undecided.spawnWindow ctx fuel (index + 1) hopen
        · exact Or.inl hopen
      · obtain ⟨rep, hover, hne⟩ := hbroken
        rw [spawnWindow_of_inactive hover.active, ite_self]
        exact Or.inr ⟨rep, hover, hne⟩
    · exact Or.inl h

theorem UndecidedOrFailed.refill (h : UndecidedOrFailed base r) (ctx : Setting P) :
    UndecidedOrFailed base (refill ctx r) := by
  unfold Run.refill
  simp only
  rcases h with hopen | ⟨rep, hover, hne⟩
  · split
    · exact Undecided.spawnWindow ctx _ _ hopen
    · exact Or.inl hopen
  · rw [hover.active, Bool.false_and, Bool.false_and, Bool.false_and, Bool.false_and]
    exact Or.inr ⟨rep, hover, hne⟩

theorem Undecided.onEnd (h : Undecided base r) (ctx : Setting P) {index : Nat}
    (changed : Option Snapshot)
    (hinner : index + 1 ≠ r.stageCount) : UndecidedOrFailed base (onEnd ctx index changed r) := by
  have hretired : Undecided base (r.retire index changed) := h.same (status_retire r index changed)
  unfold Run.onEnd
  simp only [stageCount_retire, if_neg hinner]
  exact UndecidedOrFailed.refill (Undecided.spawnWindow ctx _ _ hretired) ctx

/-- The last stage of a run has ended, and with it the run. -/
structure LastStageEnded (r r' : Run P F) (index : Nat) (changed : Option Snapshot)
    (mailbox : Mailbox (Nat × StageEvent)) : Prop where
  queue : r.pipeline.queue = (index, .ended changed) :: mailbox.toList
  found : (r.pipeline.host? index).isSome = true
  last : index + 1 = r.stageCount
  result : r' = ((r.taken index (.ended changed) mailbox).retire index changed).succeed.takeUp

theorem LastStageEnded.endedWith (h : Undecided base r) {index : Nat} {changed : Option Snapshot}
    {mailbox : Mailbox (Nat × StageEvent)} (hlast : LastStageEnded r r' index changed mailbox) :
    ∃ rep, EndedWith base rep r' ∧ rep.outcome = .completed := by
  have hretired : Undecided base ((r.taken index (.ended changed) mailbox).retire index changed) :=
    h.same (status_retire _ index changed)
  obtain ⟨rep, hover, houtcome⟩ := hretired.toUnreported.succeed
  rw [hlast.result]
  exact ⟨rep, hover.takeUp, houtcome⟩

theorem Undecided.stepEvent (h : Undecided base r) (ctx : Setting P) :
    UndecidedOrFailed base (Run.stepEvent ctx r) ∨ ∃ index changed mailbox,
      LastStageEnded r (Run.stepEvent ctx r) index changed mailbox := by
  have hhandled := stepEvent_cases ctx h.active
  generalize Run.stepEvent ctx r = after at hhandled ⊢
  have htaken : ∀ (index : Nat) (e : StageEvent) (mailbox : Mailbox (Nat × StageEvent)),
      Undecided base (r.taken index e mailbox) := fun index e mailbox =>
        h.same (status_taken r index e mailbox)
  cases hhandled with
  | none => exact Or.inl (Or.inl h)
  | @dropped index e mailbox hqueue hgone =>
    have hdropped : Undecided base { r with mailbox := mailbox } := h.same rfl
    exact Or.inl (UndecidedOrFailed.takeUp (Or.inl hdropped))
  | @data index bytes mailbox host hqueue hfound =>
    have hdata := (htaken index (.data bytes) mailbox).same (status_onData _ ctx index bytes)
    exact Or.inl (UndecidedOrFailed.takeUp (Or.inl hdata))
  | @ended index changed mailbox host hqueue hfound =>
    by_cases hlast : index + 1 = r.stageCount
    · right
      refine ⟨index, changed, mailbox, hqueue, by rw [hfound]; rfl, hlast, ?_⟩
      rw [onEnd_last (r := r.taken index (.ended changed) mailbox) hlast]
    · left
      exact UndecidedOrFailed.takeUp
        ((htaken index (.ended changed) mailbox).onEnd ctx changed hlast)
  | @failed index message changed mailbox host hqueue hfound =>
    left
    exact UndecidedOrFailed.takeUp
      ((htaken index (.failed message changed) mailbox).failStage ctx _ _ changed)
  | @asked index mailbox host hqueue hfound =>
    have hasked := (htaken index .wantsInput mailbox).same (status_onRequest _ index)
    exact Or.inl (UndecidedOrFailed.takeUp (Or.inl hasked))

theorem Undecided.stepLine (h : Undecided base r) : Undecided base r.stepLine := by
  unfold Run.stepLine
  split
  · exact h
  · rename_i source hsource
    simp only
    have htyped : ∀ (reading : Reading) (source : LineSource),
        ({ r with reading := reading }.setInput source).status = r.status := by
      intro reading source
      simp only [status, setInput, hsource, Option.isSome_some]
      rfl
    split
    · rename_i line after _
      have hmore : ([Effect.lineRead line].filter Effect.isMark).filterMap Effect.report? = [] := by
        cases line <;> rfl
      refine h.congr ?_ hmore
      rw [status_takeUp, status_onLine, status_record, htyped]
    · exact h.same (htyped _ _)

/-- **A choice leaves an open run open, or over without success, or its last stage has ended.** -/
theorem Undecided.step (h : Undecided base r) (ctx : Setting P) (c : Choice) :
    UndecidedOrFailed base (Run.step ctx r c) ∨ ∃ index changed mailbox,
      LastStageEnded r (Run.step ctx r c) index changed mailbox := by
  cases c with
  | work index =>
    simp only [Run.step, h.active, if_true]
    exact Or.inl (Or.inl (h.same (status_stepWork r index)))
  | requestKill => exact Or.inl (Or.inl ⟨{ h.toUnreported with }, h.active, h.outcome⟩)
  | kill =>
    left
    simp only [Run.step]
    split
    · obtain ⟨rep, hover, houtcome⟩ := h.toUnreported.kill h.active
      refine Or.inr ⟨rep, hover, ?_⟩
      rw [houtcome, h.outcome]
      rintro ⟨⟩
    · exact Or.inl h
  | event =>
    simp only [Run.step]
    split
    · exact h.stepEvent ctx
    · exact Or.inl (Or.inl h)
  | line =>
    left
    simp only [Run.step]
    split
    · exact Or.inl h.stepLine
    · exact Or.inl h

/-! ## What is asked of a run later -/

/-- What can be asked of a run at any time: that it goes on, that it be killed, or that its line be
carried out again. -/
inductive Call where
  | go (c : Choice)
  | kill
  | again
  deriving DecidableEq, Repr

def call (ctx : Setting P) (r : Run P F) : Call → Run P F
  | .go c => step ctx r c
  | .kill => r.kill
  | .again => (r.prepare ctx).activate ctx

def Call.requestsKill : Call → Bool
  | .go .requestKill => true
  | _ => false

/-- A run that is not active cannot be killed. -/
theorem kill_of_inactive (h : r.active = false) : r.kill = r := by
  simp [kill, h]

theorem EndedWith.prepare {rep : Report} (h : EndedWith base rep r) (ctx : Setting P) :
    Run.prepare ctx r = r := by
  simp [Run.prepare, h.report]

theorem EndedWith.activate {rep : Report} (h : EndedWith base rep r) (ctx : Setting P) :
    Run.activate ctx r = r := by
  simp [Run.activate, h.report]

theorem EndedWith.call {rep : Report} (h : EndedWith base rep r) (ctx : Setting P) (c : Call) :
    Run.call ctx r c = { r with killRequested := r.killRequested || c.requestsKill } := by
  have hkeep : r = { r with killRequested := r.killRequested || false } := by
    rw [Bool.or_false]
  cases c with
  | go choice =>
    by_cases hrequest : choice = .requestKill
    · subst hrequest
      simp [Run.call, Run.step, Call.requestsKill]
    · have hquiet : (Call.go choice).requestsKill = false := by
        cases choice <;> first | rfl | exact absurd rfl hrequest
      rw [Run.call, step_inactive hrequest h.active, hquiet]
      exact hkeep
  | kill =>
    rw [Run.call, kill_of_inactive h.active]
    exact hkeep
  | again =>
    rw [Run.call, h.prepare, h.activate]
    exact hkeep

theorem EndedWith.step {rep : Report} (h : EndedWith base rep r) (ctx : Setting P) (c : Choice) :
    Run.step ctx r c = { r with killRequested := r.killRequested || (Call.go c).requestsKill } :=
  h.call ctx (.go c)

/-- **Nothing happens to a run that is over**, except that its kill can still be requested. -/
theorem EndedWith.calls (ctx : Setting P) (calls : List Call) {rep : Report} : ∀ {r : Run P F},
    EndedWith base rep r →
      calls.foldl (Run.call ctx) r =
        { r with killRequested := r.killRequested || calls.any Call.requestsKill } := by
  induction calls with
  | nil =>
    intro r _
    simp
  | cons c calls ih =>
    intro r h
    have hafter : EndedWith base rep (Run.call ctx r c) := by
      rw [h.call ctx c]
      exact { h with }
    rw [List.foldl_cons, ih hafter, h.call ctx c, List.any_cons, Bool.or_assoc]

/-! ## From the beginning -/

theorem Unreported.refuse (h : Unreported base r) (hactive : r.active = false)
    (hresident : r.resident = []) (ctx : Setting P) (why : Failure) :
    ∃ rep, EndedWith base rep (prepare.refuse ctx why r) ∧ rep.outcome = .failed why := by
  have hprint : (r.record (ctx.console.print
      ("conduit: parse error (" ++ why.message ++ ")\n"))).status = r.status.mark [] := by
    rw [status_record, Console.print_marks]
  have hu := h.congr hprint rfl
  exact Unreported.complete (o := .failed why)
    (r := { r.record (ctx.console.print ("conduit: parse error (" ++ why.message ++ ")\n")) with
      outcome := some (.failed why) })
    ⟨hu.report, hu.completions, hu.reports, hu.dismissed⟩ hactive rfl hresident

theorem Unreported.new (line : String) (s : Session F) : Unreported s (Run.new line s : Run P F) :=
  ⟨rfl, rfl, rfl, List.forall_mem_nil _⟩

/-- Finding the stages of a line reports nothing. -/
theorem Unreported.resolved {line : String} {s : Session F} {parsed : List Statement}
    {effects : List Effect} {result : Except Failure (List (Stage P))}
    (hresolve : ctx.resolver.statements s.requests parsed = (effects, result)) :
    Unreported s (Run.new line (s.record effects) : Run P F) :=
  ⟨rfl, rfl, Session.reports_congr (Resolver.marks_resolved hresolve s), List.forall_mem_nil _⟩

/-- What fails before any stage exists is over at once. -/
theorem prepare_endedWith {line : String} {s : Session F}
    (h : ((Run.new line s : Run P F).prepare ctx).report ≠ none) :
    ∃ rep, EndedWith s rep ((Run.new line s : Run P F).prepare ctx) ∧ rep.outcome ≠ .completed := by
  have hfailed : ∀ {r : Run P F} {why : Failure},
      (∃ rep, EndedWith s rep r ∧ rep.outcome = .failed why) →
        ∃ rep, EndedWith s rep r ∧ rep.outcome ≠ .completed := by
    rintro r why ⟨rep, hover, houtcome⟩
    refine ⟨rep, hover, ?_⟩
    rw [houtcome]
    exact nofun
  have hprepared := prepare_cases ctx (Run.new line s)
  generalize (Run.new line s : Run P F).prepare ctx = r at h hprepared ⊢
  cases hprepared with
  | reported hreport => cases hreport
  | unreadable hparse => exact hfailed ((Unreported.new line s).refuse rfl rfl ctx _)
  | unresolved hparse hresolve =>
    exact hfailed ((Unreported.resolved hresolve).refuse rfl rfl ctx _)
  | ready hparse hresolve => exact absurd rfl h

theorem beginning_undecided {line : String} {s : Session F} {parsed : List Statement}
    {effects : List Effect} {stages : List (Stage P)}
    (hresolve : ctx.resolver.statements s.requests parsed = (effects, .ok stages)) (killed : Bool) :
    Undecided s (beginning line (s.record effects) stages killed) := by
  have hunreported : Unreported s (Run.new line (s.record effects) : Run P F) := .resolved hresolve
  exact ⟨{ hunreported with }, rfl, rfl⟩

/-- A run that has just begun is open, or over without success. -/
theorem reached_begun (ctx : Setting P) (line : String) (s : Session F) (killed : Bool) :
    UndecidedOrFailed s (reached ctx line s killed []) := by
  by_cases hreport : ((Run.new line s : Run P F).prepare ctx).report = none
  · obtain ⟨parsed, effects, stages, hparse, hresolve, -⟩ := prepare_spec hreport
    rw [reached_beginning hparse hresolve]
    have hopen : Undecided s (beginning line (s.record effects) stages killed) :=
      beginning_undecided hresolve killed
    cases killed with
    | true =>
      obtain ⟨rep, hover, houtcome⟩ := hopen.toUnreported.kill rfl
      refine Or.inr ⟨rep, hover, ?_⟩
      rw [houtcome]
      exact nofun
    | false => exact UndecidedOrFailed.takeUp (Undecided.spawnWindow ctx _ _ hopen)
  · obtain ⟨rep, hover, hne⟩ := prepare_endedWith hreport
    have hmarked : EndedWith s rep
        { (Run.new line s : Run P F).prepare ctx with killRequested := killed } := { hover with }
    have hbegun : reached ctx line s killed [] =
        { (Run.new line s : Run P F).prepare ctx with killRequested := killed } :=
      hmarked.activate ctx
    rw [hbegun]
    exact Or.inr ⟨rep, hmarked, hne⟩

/-- **A reached run is open while it is active and over when it is not.** -/
theorem reached_undecided_or_endedWith (ctx : Setting P) (line : String) (s : Session F)
    (killed : Bool) (choices : List Choice) :
    Undecided s (reached ctx line s killed choices) ∨
      ∃ rep, EndedWith s rep (reached ctx line s killed choices) := by
  induction choices using List.reverseRecOn with
  | nil =>
    rcases reached_begun ctx line s killed with hopen | ⟨rep, hover, -⟩
    · exact Or.inl hopen
    · exact Or.inr ⟨rep, hover⟩
  | append_singleton choices c ih =>
    rw [reached_concat]
    rcases ih with hopen | ⟨rep, hover⟩
    · rcases hopen.step ctx c with (hopen' | ⟨rep, hover, -⟩) | ⟨index, changed, mailbox, hlast⟩
      · exact Or.inl hopen'
      · exact Or.inr ⟨rep, hover⟩
      · obtain ⟨rep, hover, -⟩ := hlast.endedWith hopen
        exact Or.inr ⟨rep, hover⟩
    · rw [hover.step]
      exact Or.inr ⟨rep, { hover with }⟩

/-- **A run has completed only by the end of its last stage**; all that happened afterwards is that a
kill may have been requested. -/
theorem reached_lastStageEnded {line : String} {s : Session F} {killed : Bool}
    {choices : List Choice}
    {rep : Report} (hreport : (reached ctx line s killed choices).report = some rep)
    (hcompleted : rep.outcome = .completed) :
    ∃ before c index changed mailbox, Undecided s (reached ctx line s killed before) ∧
      LastStageEnded (reached ctx line s killed before)
        (reached ctx line s killed (before ++ [c])) index
        changed mailbox ∧
      reached ctx line s killed choices =
        { reached ctx line s killed (before ++ [c]) with
          killRequested := (reached ctx line s killed choices).killRequested } := by
  induction choices using List.reverseRecOn with
  | nil =>
    rcases reached_begun ctx line s killed with hopen | ⟨other, hover, hne⟩
    · cases hopen.report.symm.trans hreport
    · cases hover.report.symm.trans hreport
      exact absurd hcompleted hne
  | append_singleton choices c ih =>
    rcases reached_undecided_or_endedWith ctx line s killed choices with hopen | ⟨other, hover⟩
    · rw [reached_concat] at hreport
      rcases hopen.step ctx c with (hopen' | ⟨other, hover, hne⟩) | ⟨index, changed, mailbox, hlast⟩
      · cases hopen'.report.symm.trans hreport
      · cases hover.report.symm.trans hreport
        exact absurd hcompleted hne
      · rw [← reached_concat] at hlast
        exact ⟨choices, c, index, changed, mailbox, hopen, hlast, rfl⟩
    · rw [reached_concat, hover.step] at hreport ⊢
      obtain ⟨before, last, index, changed, mailbox, hopen, hlast, heq⟩ := ih hreport
      refine ⟨before, last, index, changed, mailbox, hopen, hlast, ?_⟩
      exact congrArg (fun r : Run P F => { r with
        killRequested := (reached ctx line s killed choices).killRequested ||
          (Call.go c).requestsKill }) heq

/-! ## The life of a run -/

/-- A run that was to be killed before it became active: it ends killed, no stage was set going, and
nothing was printed or given out. -/
structure KilledBeforeStartSpec (base : Session F) (r : Run P F) : Prop where
  once : ∃ rep, EndedWith base rep r ∧ rep.outcome = .killed ∧ rep.spawned = 0
  started : r.journal.started = []
  prints : r.session.prints = base.prints
  exports : r.session.exports = base.exports

theorem KilledBeforeStartSpec.request (h : KilledBeforeStartSpec base r) (requested : Bool) :
    KilledBeforeStartSpec base { r with killRequested := requested } where
  once := by
    obtain ⟨rep, hover, hrep⟩ := h.once
    exact ⟨rep, { hover with }, hrep⟩
  started := h.started
  prints := h.prints
  exports := h.exports

/-- A setting with a program that writes and another that copies what it reads. -/
def written : Setting Routine :=
  .fixed [⟨["p"], [], .program [.write [104, 105]] 0⟩, ⟨["q"], [], .program [.copyRest] 0⟩] .none
    true

end Run

end Pipework
