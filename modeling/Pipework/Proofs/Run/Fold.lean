import Pipework.Proofs.Run.OneStage
import Pipework.Routine.Basic
import Pipework.Run.Series

/-!
# Sequential runs as folds

Without shared memory a run is a plain recursion over its stages (`fold`): each stage gets all that
the one before it put out and the snapshot that the earlier ones have left, and the first stage that
fails is the last to be set going. `sequential_fold` says that a run ends with what the recursion
comes to, for every order of choices, and that it does not end where the recursion does not.
-/

namespace Pipework

/-- One more stage has come to its yield. Only what the last one puts out is seen. -/
def Tally.carried {F : Type} [Filesystem F] (c : Console) (call : Option Callback.Call)
    (last : Bool) (y : Yield) (t : Tally F) : Tally F :=
  if last then (t.handOut call).emit (c.show y.pieces) else t.handOut call

namespace Run

variable {P F : Type} [Program P] [Filesystem F] {ctx : Setting P}

/-- Carries stages through one after another, each within so many acts. -/
def fold (ctx : Setting P) (acts : Nat) :
    List (Stage P) → Bytes → Tally F → Option (Outcome × Tally F)
  | [], _, t => some (.completed, t)
  | stage :: rest, input, t =>
    let files := t.snapshot
    match stage.yield? acts t.calls files input with
    | none => none
    | some y =>
      let t := t.carried ctx.console (stage.call? files input) rest.isEmpty y
      let changed := Host.changed files y.files
      match y.verdict.message? with
      | none => fold ctx acts rest y.output (t.merge changed)
      | some message =>
        let why : Failure := .broken stage.command message
        let t := t.emit (ctx.console.print (why.notice stage.command))
        some (.failed why, if ctx.mergeOnError then t.merge changed else t)

variable {base : Session F} {line : String} {stages : List (Stage P)} {t : Tally F} {r : Run P F}
  {h : Host P} {queue : List StageEvent} {backlog : Bytes}

/-! ## One stage -/

/-- **A host at work reports the yield of its task**, behind what it has reported before. -/
theorem OneStageActive.yields :
    ∀ (acts : Nat) {task : Task P} {initial : Snapshot} {rest : Bytes} {y : Yield}
    {queue : List StageEvent} {h : Host P} {r : Run P F},
    OneStageActive base line stages t h queue backlog r → h.phase = .working task initial false →
    h.supply = .given rest → task.yield? acts rest = some y →
    ∃ n h', OneStageActive base line stages t h' (queue ++ y.events initial) backlog
      ((advance ctx)^[n] r) ∧
      h'.phase = .over ∧ h'.index = h.index ∧ h'.stage = h.stage
  | 0, _, _, _, _, _, _, _, _, _, _, hy => by cases hy
  | acts + 1, task, initial, rest, y, queue, h, r, a, hwork, hsupply, hy => by
    have hact := a.act ctx hwork hsupply
    unfold Task.yield? at hy
    cases htask : task.act with
    | silent next =>
      rw [htask] at hact
      simp only [htask] at hy
      obtain ⟨n, h', a', hover, hindex, hstage⟩ := OneStageActive.yields acts hact rfl hsupply hy
      rw [Host.actResult, List.append_nil] at a'
      exact ⟨n + 1, h', a', hover, hindex, hstage⟩
    | read limit answer =>
      rw [htask] at hact
      simp only [htask] at hy
      obtain ⟨n, h', a', hover, hindex, hstage⟩ := OneStageActive.yields acts hact rfl rfl hy
      rw [Host.actResult, List.append_nil] at a'
      exact ⟨n + 1, h', a', hover, hindex, hstage⟩
    | write data answer =>
      rw [htask] at hact
      simp only [htask, Option.map_eq_some_iff] at hy
      obtain ⟨y', hy', rfl⟩ := hy
      obtain ⟨n, h', a', hover, hindex, hstage⟩ := OneStageActive.yields acts hact rfl hsupply hy'
      refine ⟨n + 1, h', ?_, hover, hindex, hstage⟩
      have hevents : (queue ++ if data.isEmpty then [] else [.data data]) ++ y'.events initial =
          queue ++ (Yield.putOut data y').events initial := by
        unfold Yield.putOut Yield.events
        split <;> simp
      rw [← hevents]
      exact a'
    | finish verdict files =>
      rw [htask] at hact
      simp only [htask, Option.some.injEq] at hy
      subst hy
      exact ⟨1, _, hact, rfl, rfl, rfl⟩

/-- A host whose task needs more acts is still at work. -/
theorem OneStageActive.unfinished {acts : Nat} {task : Task P} {initial : Snapshot} {rest : Bytes}
    (a : OneStageActive base line stages t h queue backlog r)
    (hwork : h.phase = .working task initial false)
    (hsupply : h.supply = .given rest) (hy : task.yield? acts rest = none) {n : Nat}
    (hn : n ≤ acts) : ((advance ctx)^[n] r).active = true := by
  induction acts generalizing task rest queue h r n with
  | zero =>
    obtain rfl : n = 0 := Nat.le_zero.mp hn
    exact a.active
  | succ acts ih =>
    cases n with
    | zero => exact a.active
    | succ n =>
      have hact := a.act ctx hwork hsupply
      have hn : n ≤ acts := Nat.le_of_succ_le_succ hn
      unfold Task.yield? at hy
      rw [Function.iterate_succ_apply]
      cases htask : task.act with
      | silent next =>
        rw [htask] at hact
        simp only [htask] at hy
        exact ih hact rfl hsupply hy hn
      | read limit answer =>
        rw [htask] at hact
        simp only [htask] at hy
        exact ih hact rfl rfl hy hn
      | write data answer =>
        rw [htask] at hact
        simp only [htask, Option.map_eq_none_iff] at hy
        exact ih hact rfl hsupply hy hn
      | finish verdict files =>
        simp only [htask] at hy
        cases hy

/-- **What a stage has put out is printed or put by piece by piece** before its end is handled. -/
theorem OneStageActive.drain (ctx : Setting P) :
    ∀ (pieces : List Bytes) {t : Tally F} {backlog : Bytes} {r : Run P F},
    OneStageActive base line stages t h (pieces.map .data ++ queue) backlog r → h.phase = .over →
    OneStageActive base line stages
      (if h.index + 1 = stages.length then t.emit (ctx.console.show pieces) else t) h queue
      (if h.index + 1 = stages.length then backlog else backlog ++ pieces.flatten)
      ((advance ctx)^[pieces.length] r)
  | [], t, backlog, r, a, _ => by
    have hemit : t.emit (ctx.console.show []) = t := by simp [Tally.emit, Console.show]
    simpa [hemit] using a
  | piece :: pieces, t, backlog, r, a, hover => by
    rw [List.length_cons, Function.iterate_succ_apply, a.advance_event hover (by simp)]
    obtain ⟨r', a', hstep⟩ := a.stepEvent ctx
    have hdata := a'.onData ctx piece
    rw [hstep]
    by_cases hlast : h.index + 1 = stages.length
    · simp only [if_pos hlast] at hdata ⊢
      have hrest := OneStageActive.drain ctx pieces hdata hover
      simp only [if_pos hlast] at hrest
      rw [hdata.toSequentialInv.takeUp]
      have hemit : (t.emit (ctx.console.print (Utf8.decodeLossy piece))).emit
          (ctx.console.show pieces) = t.emit (ctx.console.show (piece :: pieces)) := by
        simp [Tally.emit, Console.show]
      rw [← hemit]
      exact hrest
    · simp only [if_neg hlast] at hdata ⊢
      have hrest := OneStageActive.drain ctx pieces hdata hover
      simp only [if_neg hlast] at hrest
      rw [hdata.toSequentialInv.takeUp, List.flatten_cons, ← List.append_assoc]
      exact hrest

/-- A stage whose yield is found is carried through up to its closing event. -/
theorem BetweenStages.round (ctx : Setting P) {k : Nat}
    (v : BetweenStages base line stages t k backlog r) {stage : Stage P}
    (hstage : stages[k]? = some stage) {acts : Nat} {y : Yield}
    (hy : stage.yield? acts t.calls t.snapshot backlog = some y) :
    ∃ n h, OneStageActive base line stages
        (if k + 1 = stages.length then
          (t.handOut (stage.call? t.snapshot backlog)).emit (ctx.console.show y.pieces)
        else t.handOut (stage.call? t.snapshot backlog)) h
        [Host.closing y.verdict t.snapshot y.files]
        (if k + 1 = stages.length then [] else y.output)
        ((advance ctx)^[n] (spawnStage ctx k r)) ∧
      h.phase = .over ∧ h.index = k ∧ h.stage = stage := by
  obtain ⟨h, events, a, hindex, hplace, hout⟩ := v.spawn ctx hstage
  have hreported : ∃ n h',
    OneStageActive base line stages (t.handOut (stage.call? t.snapshot backlog)) h'
      (y.events t.snapshot) [] ((advance ctx)^[n] (spawnStage ctx k r)) ∧
        h'.phase = .over ∧ h'.index = h.index ∧ h'.stage = h.stage := by
    rcases hout with ⟨task, hwork, hsupply, rfl, hyield⟩ | ⟨hover, y', rfl, hyield⟩
    · rw [hplace] at hyield
      have hy : task.yield? acts backlog = some y := (hyield acts).symm.trans hy
      exact OneStageActive.yields acts a hwork hsupply hy
    · rw [hplace] at hyield
      cases hy.symm.trans (hyield acts)
      exact ⟨0, h, a, hover, rfl, rfl⟩
  obtain ⟨n, h', a', hover, hindex', hplace'⟩ := hreported
  have hdrained := OneStageActive.drain ctx y.pieces a' hover
  rw [List.nil_append, hindex'.trans hindex, ← Function.iterate_add_apply] at hdrained
  exact ⟨_, h', hdrained, hover, hindex'.trans hindex, hplace'.trans hplace⟩

theorem BetweenStages.unfinished {k : Nat} (v : BetweenStages base line stages t k backlog r)
    {stage : Stage P} (hstage : stages[k]? = some stage) {acts : Nat}
    (hy : stage.yield? acts t.calls t.snapshot backlog = none) {n : Nat} (hn : n ≤ acts) :
    ((advance ctx)^[n] (spawnStage ctx k r)).active = true := by
  obtain ⟨h, events, a, -, hplace, hout⟩ := v.spawn ctx hstage
  rw [← hplace] at hy
  rcases hout with ⟨task, hwork, hsupply, -, hyield⟩ | ⟨-, y, -, hyield⟩
  · exact a.unfinished hwork hsupply ((hyield acts).symm.trans hy) hn
  · cases hy.symm.trans (hyield acts)

/-! ## One stage after another -/

/-- The closing event of a stage that failed ends the run. -/
theorem OneStageActive.close_failed {verdict : Verdict} {initial files : Snapshot}
    {message : String}
    (a : OneStageActive base line stages t h [Host.closing verdict initial files] backlog r)
    (hover : h.phase = .over) (hmessage : verdict.message? = some message) :
    Concluded base line stages
      (if ctx.mergeOnError then (t.emit (ctx.console.print
          ((Failure.broken h.stage.command message).notice h.stage.command))).merge
            (Host.changed initial files)
        else t.emit (ctx.console.print
          ((Failure.broken h.stage.command message).notice h.stage.command)))
      (.failed (.broken h.stage.command message)) (advance ctx r) := by
  rw [a.advance_event hover (List.cons_ne_nil _ _)]
  obtain ⟨r', a', hstep⟩ := a.stepEvent ctx
  rw [hstep]
  simp only [Host.closing, hmessage]
  exact (a'.failStage _ _).takeUp

/-- The closing event of the last stage ends the run. -/
theorem OneStageActive.close_last {verdict : Verdict} {initial files : Snapshot}
    (a : OneStageActive base line stages t h [Host.closing verdict initial files] backlog r)
    (hover : h.phase = .over) (hmessage : verdict.message? = none)
    (hlast : h.index + 1 = stages.length) :
    Concluded base line stages (t.merge (Host.changed initial files)) .completed
      (advance ctx r) := by
  rw [a.advance_event hover (List.cons_ne_nil _ _)]
  obtain ⟨r', a', hstep⟩ := a.stepEvent ctx
  rw [hstep]
  simp only [Host.closing, hmessage]
  exact (a'.onEnd_last hlast _).takeUp

/-- The closing event of any other stage brings the next one. -/
theorem OneStageActive.close_inner {verdict : Verdict} {initial files : Snapshot}
    (a : OneStageActive base line stages t h [Host.closing verdict initial files] backlog r)
    (hover : h.phase = .over) (hmessage : verdict.message? = none)
    (hinner : h.index + 1 < stages.length) :
    ∃ r', BetweenStages base line stages (t.merge (Host.changed initial files))
      (h.index + 1) backlog r' ∧
      advance ctx r = spawnStage ctx (h.index + 1) r' := by
  rw [a.advance_event hover (List.cons_ne_nil _ _)]
  obtain ⟨r', a', hstep⟩ := a.stepEvent ctx
  rw [hstep]
  simp only [Host.closing, hmessage]
  obtain ⟨v, -⟩ := a'.retire (Host.changed initial files)
  obtain ⟨h', events, a'', -⟩ := v.spawn ctx (List.getElem?_eq_getElem hinner)
  refine ⟨_, v, ?_⟩
  rw [a'.onEnd_inner hinner, a''.toSequentialInv.takeUp]

theorem drop_eq_cons {α : Type} {stages rest : List α} {stage : α} {k : Nat}
    (hdrop : stages.drop k = stage :: rest) :
    stages[k]? = some stage ∧ stages.drop (k + 1) = rest ∧ (k + 1 = stages.length ↔ rest = []) := by
  have hstage : stages[k]? = some stage := by
    rw [← List.head?_drop, hdrop]
    rfl
  have hrest : stages.drop (k + 1) = rest := by
    rw [← List.tail_drop, hdrop]
    rfl
  have hlen := congrArg List.length hrest
  have hlt := (List.getElem?_eq_some_iff.mp hstage).1
  rw [List.length_drop] at hlen
  rw [← List.length_eq_zero_iff]
  exact ⟨hstage, hrest, by omega⟩

/-- A stage that has not failed is followed by the next one on its own output. -/
theorem BetweenStages.next_round (ctx : Setting P) {k : Nat}
    (v : BetweenStages base line stages t k backlog r) {stage : Stage P}
    (hstage : stages[k]? = some stage) (hinner : k + 1 < stages.length) {acts : Nat} {y : Yield}
    (hy : stage.yield? acts t.calls t.snapshot backlog = some y)
    (hmessage : y.verdict.message? = none) :
    ∃ n r', BetweenStages base line stages
        ((t.handOut (stage.call? t.snapshot backlog)).merge (Host.changed t.snapshot y.files))
        (k + 1) y.output r' ∧
      (advance ctx)^[n] (spawnStage ctx k r) = spawnStage ctx (k + 1) r' := by
  obtain ⟨n, h, a, hover, hindex, hplace⟩ := v.round ctx hstage hy
  rw [if_neg (Nat.ne_of_lt hinner), if_neg (Nat.ne_of_lt hinner)] at a
  subst hindex
  obtain ⟨r', v', hnext⟩ := a.close_inner hover hmessage hinner
  refine ⟨n + 1, r', v', ?_⟩
  rw [Function.iterate_succ_apply', hnext]

/-- **The run does what the recursion does**, stage for stage. -/
theorem BetweenStages.folds {acts : Nat} {rest : List (Stage P)} {k : Nat} {o : Outcome}
    {t' : Tally F}
    (v : BetweenStages base line stages t k backlog r) (hdrop : stages.drop k = rest)
    (hne : rest ≠ []) (hfold : fold ctx acts rest backlog t = some (o, t')) :
    ∃ n, Concluded base line stages t' o ((advance ctx)^[n] (spawnStage ctx k r)) := by
  induction rest generalizing k t backlog r with
  | nil => exact absurd rfl hne
  | cons stage rest ih =>
    obtain ⟨hstage, hdrop', hlast⟩ := drop_eq_cons hdrop
    unfold fold at hfold
    simp only at hfold
    cases hy : stage.yield? acts t.calls t.snapshot backlog with
    | none =>
      rw [hy] at hfold
      cases hfold
    | some y =>
      simp only [hy] at hfold
      cases hmessage : y.verdict.message? with
      | some message =>
        obtain ⟨n, h, a, hover, hindex, hplace⟩ := v.round ctx hstage hy
        simp only [hmessage, Tally.carried, List.isEmpty_iff, ← hlast, Option.some.injEq,
          Prod.mk.injEq] at hfold
        obtain ⟨rfl, rfl⟩ := hfold
        subst hindex hplace
        refine ⟨n + 1, ?_⟩
        rw [Function.iterate_succ_apply']
        exact a.close_failed hover hmessage
      | none =>
        simp only [hmessage] at hfold
        cases rest with
        | nil =>
          obtain ⟨n, h, a, hover, hindex, hplace⟩ := v.round ctx hstage hy
          simp only [fold, Tally.carried, List.isEmpty_nil, if_true, Option.some.injEq,
            Prod.mk.injEq] at hfold
          obtain ⟨rfl, rfl⟩ := hfold
          rw [if_pos (hlast.mpr rfl)] at a
          subst hindex
          refine ⟨n + 1, ?_⟩
          rw [Function.iterate_succ_apply']
          exact a.close_last hover hmessage (hlast.mpr rfl)
        | cons next rest =>
          have hinner : k + 1 < stages.length := by
            have hlt := (List.getElem?_eq_some_iff.mp hstage).1
            have hne : k + 1 ≠ stages.length := fun he => by cases hlast.mp he
            omega
          obtain ⟨n, r', v', hnext⟩ := v.next_round ctx hstage hinner hy hmessage
          obtain ⟨m, hconcluded⟩ := ih v' hdrop' (List.cons_ne_nil _ _) hfold
          refine ⟨m + n, ?_⟩
          rw [Function.iterate_add_apply, hnext]
          exact hconcluded

/-- **Where the recursion does not come to an end, neither does the run.** -/
theorem BetweenStages.never_folds {acts : Nat} {rest : List (Stage P)} {k : Nat}
    (v : BetweenStages base line stages t k backlog r) (hdrop : stages.drop k = rest)
    (hfold : fold ctx acts rest backlog t = none) {n : Nat} (hn : n ≤ acts) :
    ((advance ctx)^[n] (spawnStage ctx k r)).active = true := by
  induction rest generalizing k t backlog r n with
  | nil => cases hfold
  | cons stage rest ih =>
    obtain ⟨hstage, hdrop', hlast⟩ := drop_eq_cons hdrop
    unfold fold at hfold
    simp only at hfold
    cases hy : stage.yield? acts t.calls t.snapshot backlog with
    | none => exact v.unfinished hstage hy hn
    | some y =>
      simp only [hy] at hfold
      cases hmessage : y.verdict.message? with
      | some message =>
        simp only [hmessage] at hfold
        cases hfold
      | none =>
        simp only [hmessage] at hfold
        cases rest with
        | nil => cases hfold
        | cons next rest =>
          have hinner : k + 1 < stages.length := by
            have hlt := (List.getElem?_eq_some_iff.mp hstage).1
            have hne : k + 1 ≠ stages.length := fun he => by cases hlast.mp he
            omega
          obtain ⟨m, r', v', hnext⟩ := v.next_round ctx hstage hinner hy hmessage
          have hlater : ∀ i ≤ acts, ((advance ctx)^[i + m] (spawnStage ctx k r)).active = true := by
            intro i hi
            rw [Function.iterate_add_apply, hnext]
            exact ih v' hdrop' hfold hi
          rcases Nat.le_total n m with hle | hge
          · -- a run that is active later is active before
            obtain ⟨d, rfl⟩ := Nat.exists_eq_add_of_le hle
            have hactive := hlater 0 (Nat.zero_le _)
            rw [Nat.zero_add, Nat.add_comm, Function.iterate_add_apply] at hactive
            exact active_of_iterate hactive
          · obtain ⟨d, rfl⟩ := Nat.exists_eq_add_of_le hge
            rw [Nat.add_comm]
            exact hlater d (by omega)

/-! ## The whole run -/

theorem BetweenStages.opening (line : String) {base : Session F} (stages : List (Stage P))
    (hunshared : base.factory.sharedMemory = false) :
    BetweenStages base line stages (.opening base.files base.calls) 0 []
      { Run.new line base with stages := stages, active := true } where
  active := rfl
  line := rfl
  stages := rfl
  idle := rfl
  unwanted := rfl
  unkilled := rfl
  outcome := rfl
  report := rfl
  spawned := rfl
  merges := rfl
  session := rfl
  unshared := hunshared
  next := rfl
  resident := rfl
  over_lt := nofun
  queue := rfl
  backlog := rfl
  maxResident := Nat.zero_le _

/-- A sequential run begins with its first stage. -/
theorem activate_sequential (line : String) {base : Session F} {stages : List (Stage P)}
    (hunshared : base.factory.sharedMemory = false) (hne : stages ≠ []) :
    activate ctx { Run.new line base with stages := stages } =
      spawnStage ctx 0 { Run.new line base with stages := stages, active := true } := by
  have hpos : 0 < stages.length := List.length_pos_iff.mpr hne
  have v := BetweenStages.opening line stages hunshared
  obtain ⟨h, events, a, -⟩ := v.spawn ctx (List.getElem?_eq_getElem hpos)
  have hfrom := v.spawnFrom ctx hpos
  unfold activate
  simp only [Run.new, Option.isSome_none, Bool.false_eq_true, if_false] at hfrom a ⊢
  rw [hfrom, a.toSequentialInv.takeUp]

/-- A prepared run becomes active with its first stage. -/
theorem opening_eq {line : String} {s : Session F} {statements : List Statement}
    {resolved : List Effect} (hparse : ctx.parse line = .ok statements)
    (hresolve : ctx.resolver.statements s.requests statements = (resolved, .ok stages))
    (hunshared : s.factory.sharedMemory = false) :
    ∃ r, BetweenStages (s.record resolved) line stages (.opening s.files s.calls) 0 [] r ∧
      activate ctx ((Run.new line s).prepare ctx) = spawnStage ctx 0 r ∧
      ∀ choices, reached ctx line s false choices = steps ctx (spawnStage ctx 0 r) choices := by
  have hbase : (s.record resolved).factory.sharedMemory = false := hunshared
  have hne : stages ≠ [] := Resolver.statements_ne_nil hresolve
  have hprepare := prepare_eq (s := s) hparse hresolve
  refine ⟨_, BetweenStages.opening line stages hbase, ?_, fun choices => ?_⟩
  · rw [hprepare, activate_sequential line hbase hne]
  · unfold reached
    rw [hprepare, ← activate_sequential line hbase hne]
    rfl

/-- Where two ways of going on both come to an end they come to the same. -/
theorem iterate_stop {n m : Nat} (hn : ((advance ctx)^[n] r).active = false)
    (hm : ((advance ctx)^[m] r).active = false) : (advance ctx)^[n] r = (advance ctx)^[m] r := by
  have h₁ := iterate_of_inactive ctx hn m
  have h₂ := iterate_of_inactive ctx hm n
  rw [← Function.iterate_add_apply] at h₁ h₂
  rw [← h₁, ← h₂, Nat.add_comm]

/-- **A sequential run that has ended has come to what the recursion comes to**, if nobody killed
it. -/
theorem reached_sequential {line : String} {s : Session F} {statements : List Statement}
    {resolved : List Effect} (hparse : ctx.parse line = .ok statements)
    (hresolve : ctx.resolver.statements s.requests statements = (resolved, .ok stages))
    (hunshared : s.factory.sharedMemory = false) {choices : List Choice}
    (hkill : .requestKill ∉ choices) (hover : (reached ctx line s false choices).active = false) :
    ∃ acts o t, fold ctx acts stages [] (.opening s.files s.calls) = some (o, t) ∧
      Concluded (s.record resolved) line stages t o (reached ctx line s false choices) := by
  have hne : stages ≠ [] := Resolver.statements_ne_nil hresolve
  obtain ⟨r, v, -, hreached⟩ := opening_eq hparse hresolve hunshared
  obtain ⟨n, hsteps⟩ := (v.atMostOneActive ctx (List.length_pos_iff.mpr hne)).steps hkill
  rw [hreached, hsteps] at hover ⊢
  cases hfold : fold ctx n stages [] (.opening s.files s.calls) with
  | none => exact absurd (hover.symm.trans (v.never_folds rfl hfold (Nat.le_refl n))) (by decide)
  | some result =>
    obtain ⟨o, t⟩ := result
    obtain ⟨m, hconcluded⟩ := v.folds rfl hne hfold
    refine ⟨n, o, t, hfold, ?_⟩
    rw [iterate_stop hover hconcluded.ended]
    exact hconcluded

/-- **A sequential run is a left fold over its stages.** Where the recursion comes to an end the run
ends with the same outcome, prints, imports and files, given enough turns; and in whatever order
things are chosen, a run that has ended and was not killed has come to what the recursion comes
to. -/
theorem sequential_fold (ctx : Setting P) (line : String) (s : Session F)
    {statements : List Statement} {resolved : List Effect} {stages : List (Stage P)}
    (hparse : ctx.parse line = .ok statements)
    (hresolve : ctx.resolver.statements s.requests statements = (resolved, .ok stages))
    (hunshared : s.factory.sharedMemory = false) :
    (∀ acts o t, fold ctx acts stages [] (.opening s.files s.calls) = some (o, t) →
      ∃ n, ∀ turns, n ≤ turns →
        Concluded (s.record resolved) line stages t o (carryOut ctx .plain turns line s)) ∧
    (∀ choices, .requestKill ∉ choices → (reached ctx line s false choices).active = false →
      ∃ acts o t, fold ctx acts stages [] (.opening s.files s.calls) = some (o, t) ∧
        Concluded (s.record resolved) line stages t o (reached ctx line s false choices)) := by
  refine ⟨fun acts o t hfold => ?_, fun choices hkill hover =>
    reached_sequential hparse hresolve hunshared hkill hover⟩
  obtain ⟨r, v, hstart, -⟩ := opening_eq hparse hresolve hunshared
  obtain ⟨n, hconcluded⟩ := v.folds rfl (Resolver.statements_ne_nil hresolve) hfold
  refine ⟨n, fun turns hturns => ?_⟩
  have hcarry : carryOut ctx .plain turns line s =
      (advance ctx)^[turns] (activate ctx ((Run.new line s).prepare ctx)) := drive_eq turns _
  obtain ⟨d, rfl⟩ := Nat.exists_eq_add_of_le hturns
  rw [hcarry, hstart, Nat.add_comm, Function.iterate_add_apply,
    iterate_of_inactive ctx hconcluded.ended]
  exact hconcluded

/-- A program, a callback that puts the number of calls before behind its input, and a program that
fails when it has changed the store. -/
def failing : List (Stage Routine) :=
  [⟨["p"], [], .program [.write [104, 105], .store "a" (.text "x")] 0⟩,
    ⟨["c"], [], .callback fun past inv text =>
      (.ok (some (text ++ toString past.length)), inv.files)⟩,
    ⟨["q"], [], .program [.copyRest, .store "a" (.text "y"), .fail (.of "no")] 0⟩]

theorem sequential_fold_failing :
    ∃ t resolved n, t.spawned = 3 ∧ t.merges = 1 ∧ t.files = .ofList [("a", "x")] ∧
      ∀ turns, n ≤ turns → Concluded (Session.sequential.record resolved) "" failing t
        (.failed (.broken "q" "no"))
        (carryOut (.fixed failing ⟨true, false, none⟩ false) .plain turns "" .sequential) := by
  obtain ⟨n, hconcluded⟩ :=
    (sequential_fold (.fixed failing ⟨true, false, none⟩ false) "" .sequential rfl rfl rfl).1 20 _ _ rfl
  exact ⟨_, _, n, rfl, rfl, rfl, hconcluded⟩

end Run

end Pipework
