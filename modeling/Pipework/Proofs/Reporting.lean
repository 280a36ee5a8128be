import Mathlib.Data.List.Induction
import Pipework.Proofs.Leaving
import Pipework.Proofs.Yield
import Pipework.Script.Run

/-!
# What stages report

The surroundings of a host set it going, let its stage act, give it input and cancel it, in any
order and at any moment (`Host.Move`, `Host.run`). Whatever they do, what the host reports is data
and requests for input, then one event that closes the report, and then nothing; a host that was
cancelled breaks off (`Host.keeps_protocol`).

* `Stage.ReportsBeforeEnd`, `StageEvent.ClosingSpec` — what comes before the end of a report, and
  its end.
* `Host.ActOutcome` — all that one act of a stage comes to; `Host.ReportInv` — what every move
  keeps.
-/

namespace Pipework

variable {P : Type}

/-! ## Reports -/

/-- What may be reported before the end: the data of programs is never empty, and only they ask for
input, when they run beside others. -/
def StageEvent.BeforeEnd (stage : Stage P) (kind : Host.Kind) : StageEvent → Prop
  | .data bytes => stage.isCallback = false → bytes ≠ []
  | .wantsInput => stage.isCallback = false ∧ kind = .concurrent
  | .ended _ | .failed .. => False

/-- All of a report but its end. -/
structure Stage.ReportsBeforeEnd (stage : Stage P) (kind : Host.Kind) (events : List StageEvent) :
    Prop where
  passing : ∀ e ∈ events, e.BeforeEnd stage kind
  once : stage.isCallback = true → events.length ≤ 1

/-- The event that closes the report of a stage which ends so, and leaves these files of those that
it was given. -/
structure StageEvent.ClosingSpec (verdict : Verdict) (given left : Snapshot) (e : StageEvent) :
    Prop where
  verdict : match e with
    | .ended _ => verdict = .done
    | .failed message _ => verdict.message? = some message
    | .data _ | .wantsInput => False
  changed : ∀ files, e.changed? = some files ↔ files = left ∧ left ≠ given

theorem Stage.ReportsBeforeEnd.nil (stage : Stage P) (kind : Host.Kind) :
    stage.ReportsBeforeEnd kind [] :=
  ⟨List.forall_mem_nil _, fun _ => Nat.zero_le 1⟩

/-- A program goes on reporting. -/
theorem Stage.ReportsBeforeEnd.append {stage : Stage P} {kind : Host.Kind}
    {events more : List StageEvent}
    (hbody : stage.ReportsBeforeEnd kind events) (hprogram : stage.isCallback = false)
    (hmore : ∀ e ∈ more, e.BeforeEnd stage kind) :
    stage.ReportsBeforeEnd kind (events ++ more) where
  passing := List.forall_mem_append.mpr ⟨hbody.passing, hmore⟩
  once := fun hcallback => by cases hprogram.symm.trans hcallback

/-- A callback reports at most one text before its end. -/
theorem Stage.reportsBeforeEnd_ofCall {stage : Stage P} (hcallback : stage.isCallback = true)
    (kind : Host.Kind) (result : Except Fault (Option String)) (left : Snapshot) :
    stage.ReportsBeforeEnd kind ((Yield.ofCall result left).pieces.map .data) where
  passing := by
    intro e he
    obtain ⟨bytes, -, rfl⟩ := List.mem_map.mp he
    exact fun hprogram => by cases hprogram.symm.trans hcallback
  once := by
    intro _
    rw [List.length_map]
    match result with
    | .ok (some text) => exact Nat.le_refl 1
    | .ok none => exact Nat.zero_le 1
    | .error why => exact Nat.zero_le 1

theorem Yield.files_ofCall (result : Except Fault (Option String)) (left : Snapshot) :
    (Yield.ofCall result left).files = left := by
  match result with
  | .ok (some text) => rfl
  | .ok none => rfl
  | .error why => rfl

namespace Host

variable [Program P]

theorem closing_closingSpec (verdict : Verdict) (given left : Snapshot) :
    (closing verdict given left).ClosingSpec verdict given left where
  verdict := by
    unfold closing
    match verdict with
    | .done => rfl
    | .failed why => rfl
    | .panicked (some text) => rfl
    | .panicked none => rfl
  changed := by
    intro files
    rw [changed?_closing, changed]
    split
    · rename_i hsame
      exact ⟨nofun, fun h => absurd hsame h.2⟩
    · rename_i hdiffers
      rw [Option.some.injEq]
      exact ⟨fun h => ⟨h.symm, hdiffers⟩, fun h => h.1.symm⟩

/-! ## Moves -/

/-- What is done to a host. -/
inductive Move where
  | start (past : List Callback.Call) (input : Option Bytes)
  | step
  | write (data : Bytes)
  | close
  | cancel
  | terminate

/-- A host after it, and what it reports meanwhile. A stage that waits does not act, and a write
that is refused leaves the host as it is. -/
def move (h : Host P) : Move → Host P × List StageEvent
  | .start past input => ((h.start past input).1, (h.start past input).2.1)
  | .step => h.step.getD (h, [])
  | .write data =>
    match h.writeInput data with
    | .ok fed => (fed, [])
    | .error _ => (h, [])
  | .close => (h.closeInput, [])
  | .cancel => (h.cancel, [])
  | .terminate => (h.terminate, [])

def run (h : Host P) (moves : List Move) : Host P × List StageEvent :=
  moves.foldl (fun r m => ((r.1.move m).1, r.2 ++ (r.1.move m).2)) (h, [])

variable {h h' : Host P} {events : List StageEvent} {m : Move} {moves : List Move}

theorem run_concat (h : Host P) (moves : List Move) (m : Move) :
    h.run (moves ++ [m]) =
      (((h.run moves).1.move m).1, (h.run moves).2 ++ ((h.run moves).1.move m).2) :=
  List.foldl_append

/-- What a host keeps that is neither set going nor acts: it reports nothing. -/
structure SilentStep (h h' : Host P) (events : List StageEvent) : Prop where
  events : events = []
  stage : h'.stage = h.stage
  kind : h'.kind = h.kind
  phase : h'.phase = h.phase
  cancelled : h.cancelled = true → h'.cancelled = true

theorem SilentStep.refl (h : Host P) : h.SilentStep h [] := ⟨rfl, rfl, rfl, rfl, id⟩

theorem SilentStep.trans {h'' : Host P} {more : List StageEvent} (h₁ : h.SilentStep h' events)
    (h₂ : h'.SilentStep h'' more) : h.SilentStep h'' (events ++ more) where
  events := by rw [h₁.events, h₂.events, List.append_nil]
  stage := h₂.stage.trans h₁.stage
  kind := h₂.kind.trans h₁.kind
  phase := h₂.phase.trans h₁.phase
  cancelled := h₂.cancelled ∘ h₁.cancelled

theorem SilentStep.of_cancelled (hs : h.SilentStep h' events) (hcancelled : h.cancelled = true) :
    events = [] ∧ h'.cancelled = true := ⟨hs.events, hs.cancelled hcancelled⟩

theorem move_silentStep (hstart : ∀ past input, m ≠ .start past input) (hstep : m ≠ .step) :
    h.SilentStep (h.move m).1 (h.move m).2 := by
  cases m with
  | start past input => exact absurd rfl (hstart past input)
  | step => exact absurd rfl hstep
  | write data =>
    cases hwrite : h.writeInput data with
    | ok fed =>
      obtain ⟨hsame, -⟩ := writeInput_sameIdentity hwrite
      simp only [move, hwrite]
      exact ⟨rfl, hsame.stage, hsame.kind, writeInput_phase hwrite, hsame.cancelled.trans⟩
    | error why =>
      simp only [move, hwrite]
      exact .refl h
  | close =>
    obtain ⟨index, stage, supply, phase, cancelled, launched⟩ := h
    cases supply <;> exact ⟨rfl, rfl, rfl, rfl, id⟩
  | cancel => exact ⟨rfl, rfl, rfl, rfl, fun _ => rfl⟩
  | terminate =>
    obtain ⟨index, stage, supply, phase, cancelled, launched⟩ := h
    cases supply <;> exact ⟨rfl, rfl, rfl, rfl, fun _ => rfl⟩

/-! ### Acts -/

/-- All that one act of a stage comes to: it goes on, or it ends. -/
inductive ActOutcome (h h' : Host P) (events : List StageEvent) : Prop where
  | goes {task next : Task P} {given : Snapshot} {asked asked' : Bool}
      (hphase : h.phase = .working task given asked) (hnext : next = task ∨ task.StepsTo next)
      (hphase' : h'.phase = .working next given asked')
      (hevents : ∀ e ∈ events, h.cancelled = false ∧
        ((∃ bytes, e = .data bytes ∧ bytes ≠ []) ∨ e = .wantsInput ∧ h.kind = .concurrent))
  | ends {task : Task P} {given left : Snapshot} {asked : Bool} {verdict : Verdict}
      (hphase : h.phase = .working task given asked) (hend : task.act = .finish verdict left)
      (hphase' : h'.phase = .over) (hevents : events = h.report (closing verdict given left))

theorem report_mem {e e' : StageEvent} (he : e' ∈ h.report e) : h.cancelled = false ∧ e' = e := by
  unfold report at he
  split at he
  · cases he
  · rename_i hlive
    exact ⟨by simpa using hlive, List.mem_singleton.mp he⟩

theorem step_actOutcome (hstep : h.step = some (h', events)) : SameIdentity h h' ∧
    h.ActOutcome h' events := by
  refine ⟨(step_cases hstep).sameIdentity, ?_⟩
  cases step_cases hstep with
  | silent hphase hact => exact .goes hphase (.inr (.silent hact)) rfl (List.forall_mem_nil _)
  | wroteNothing hphase hact | cutOff hphase hact =>
    exact .goes hphase (.inr (.write hact _)) rfl (List.forall_mem_nil _)
  | wrote hphase hact hdata hlive =>
    refine .goes hphase (.inr (.write hact _)) rfl fun e he => ?_
    exact ⟨hlive, .inl ⟨_, List.mem_singleton.mp he, hdata⟩⟩
  | finished hphase hact => exact .ends hphase hact rfl rfl
  | readGiven hphase hact | readHeld hphase hact | refused hphase hact =>
    exact .goes hphase (.inr (.read hact _)) rfl (List.forall_mem_nil _)
  | parked hphase _ hsupply =>
    refine .goes hphase (.inl rfl) rfl fun e he => ?_
    split at he
    · cases he
    · obtain ⟨hlive, rfl⟩ := report_mem he
      exact ⟨hlive, .inr ⟨rfl, by simp only [kind, hsupply]⟩⟩

/-! ### Starting -/

theorem start_of_started (hstarted : ∀ files, h.phase ≠ .ready files)
    (past : List Callback.Call) (input : Option Bytes) : h.start past input = (h, [], none) := by
  cases hphase : h.phase with
  | ready files => exact absurd hphase (hstarted files)
  | _ => simp only [start, hphase]

/-- All that setting a host going comes to, if it is not refused: its program is at work, or its
callback is done. -/
inductive StartOutcome (h h' : Host P) (past : List Callback.Call) (files : Snapshot)
    (input : Option Bytes) (events : List StageEvent) : Prop where
  | works {p : P} {size : Nat} (hp : h.stage.executable = .program p size)
      (hphase : h'.phase = .working (.start p (h.stage.invocation files)) files false)
      (hevents : events = [])
  | called {c : Callback} {result : Except Fault (Option String)} {left : Snapshot}
      (hc : h.stage.executable = .callback c)
      (hresult : c past (h.stage.invocation files) (Utf8.decodeLossy (input.getD [])) =
        (result, left))
      (hphase : h'.phase = .over)
      (hevents : events = (callEvents result files left).flatMap h.report)

theorem startConcurrent_working {image : Image} {p : P} {files : Snapshot} {input : Option Bytes}
    (hstart : h.startConcurrent image p files input = (h', none)) :
    SameIdentity h h' ∧ h'.phase = .working (.start p (h.stage.invocation files)) files false := by
  unfold startConcurrent at hstart
  cases input with
  | none =>
    obtain ⟨hsame, -, hphase⟩ := launch_spec hstart
    exact ⟨hsame, hphase⟩
  | some data =>
    cases hwrite : h.writeInput data with
    | ok fed =>
      simp only [hwrite] at hstart
      obtain ⟨hfed, -⟩ := writeInput_sameIdentity hwrite
      obtain ⟨hsame, -, hphase⟩ := launch_spec hstart
      rw [invocation, hfed.stage] at hphase
      exact ⟨hfed.trans hsame, hphase⟩
    | error why =>
      simp only [hwrite] at hstart
      cases hstart

theorem startInline_startOutcome (past : List Callback.Call) (files : Snapshot)
    (input : Option Bytes)
    (hinline : ∀ p size, h.stage.executable = .program p size → h.kind = .inline) :
    SameIdentity h (h.startInline past files (input.getD [])).1 ∧
      h.StartOutcome (h.startInline past files (input.getD [])).1 past files input
        (h.startInline past files (input.getD [])).2 := by
  unfold startInline
  cases hexec : h.stage.executable with
  | callback c => exact ⟨⟨rfl, rfl, rfl, rfl⟩, .called hexec rfl rfl rfl⟩
  | program p size => exact ⟨⟨rfl, rfl, (hinline p size hexec).symm, rfl⟩, .works hexec rfl rfl⟩

theorem start_startOutcome {past : List Callback.Call} {files : Snapshot} {input : Option Bytes}
    (hready : h.phase = .ready files)
    (hstart : h.start past input = (h', events, none)) :
    SameIdentity h h' ∧ h.StartOutcome h' past files input events := by
  simp only [start, hready] at hstart
  split at hstart
  · rename_i image p size hsupply hp
    simp only [Prod.mk.injEq] at hstart
    obtain ⟨hsame, hphase⟩ := startConcurrent_working (Prod.ext hstart.1 hstart.2.2)
    exact ⟨hsame, .works hp hphase hstart.2.1.symm⟩
  · -- a program that runs beside others does not come here
    rename_i hother
    cases hstart
    refine startInline_startOutcome past files input fun p size hp => ?_
    cases hsupply : h.supply with
    | given rest => simp only [kind, hsupply]
    | channel c image => exact (hother c image p size hsupply hp).elim

/-! ## What every move keeps -/

/-- How the stage of a host came to its end while `moves` were made, this being reported before: its
callback was done with the input, or its program, at work on the files that it was given, had come
to its end. -/
inductive EndedBy (h : Host P) (past : List Callback.Call) (files : Snapshot)
    (input : Option Bytes) (moves : List Move)
    (body : List StageEvent) : Verdict → Snapshot → Prop where
  | called {c : Callback} {result : Except Fault (Option String)} {left : Snapshot}
      (hc : h.stage.executable = .callback c)
      (hresult : c past (h.stage.invocation files) (Utf8.decodeLossy (input.getD [])) =
        (result, left)) :
      EndedBy h past files input moves body (Yield.ofCall result left).verdict left
  | ran {p : P} {size : Nat} {task : Task P} {asked : Bool} {verdict : Verdict} {left : Snapshot}
      {before behind : List Move} (hp : h.stage.executable = .program p size)
      (hmoves : moves = before ++ .step :: behind) (hbody : (h.run before).2 = body)
      (hphase : (h.run before).1.phase = .working task files asked)
      (hleads : Task.Reaches (.start p (h.stage.invocation files)) task)
      (hend : task.act = .finish verdict left) : EndedBy h past files input moves body verdict left

theorem EndedBy.concat {past : List Callback.Call} {files : Snapshot} {input : Option Bytes}
    {body : List StageEvent} {verdict : Verdict} {left : Snapshot}
    (hended : h.EndedBy past files input moves body verdict left) (m : Move) :
    h.EndedBy past files input (moves ++ [m]) body verdict left := by
  cases hended with
  | called hc hresult => exact .called hc hresult
  | ran hp hmoves hbody hphase hleads hend =>
    exact .ran hp (by rw [hmoves, List.append_assoc]; rfl) hbody hphase hleads hend

/-- A report that came to its end. -/
def ReportComplete (h : Host P) (past : List Callback.Call) (files : Snapshot)
    (input : Option Bytes) (moves : List Move)
    (events : List StageEvent) : Prop :=
  ∃ body verdict left e, events = body ++ [e] ∧ h.stage.ReportsBeforeEnd h.kind body ∧
    h.EndedBy past files input moves body verdict left ∧ e.ClosingSpec verdict files left

/-- What is kept of a host once it was set going, and of its report: where it is now, and what it
has reported until now. -/
structure ReportInv (h : Host P) (past : List Callback.Call) (files : Snapshot)
    (input : Option Bytes) (moves : List Move)
    (now : Host P) (events : List StageEvent) : Prop where
  stage : now.stage = h.stage
  kind : now.kind = h.kind
  started : ∀ files, now.phase ≠ .ready files
  working : ∀ task given asked, now.phase = .working task given asked → given = files ∧
    ∃ p size, h.stage.executable = .program p size ∧
      Task.Reaches (.start p (h.stage.invocation files)) task
  reported : h.stage.ReportsBeforeEnd h.kind events ∧ (now.cancelled = false → now.phase ≠ .over) ∨
    h.ReportComplete past files input moves events ∧ now.phase = .over

section Moves

variable {past : List Callback.Call} {files : Snapshot} {input : Option Bytes} {now : Host P}
  {more : List StageEvent}

theorem ReportComplete.concat (hcomplete : h.ReportComplete past files input moves events)
    (m : Move) : h.ReportComplete past files input (moves ++ [m]) events := by
  obtain ⟨body, verdict, left, e, hevents, hbody, hended, hcloses⟩ := hcomplete
  exact ⟨body, verdict, left, e, hevents, hbody, hended.concat m, hcloses⟩

/-- A host whose stage is at work. -/
theorem ReportInv.atWork {p : P} {size : Nat} {task : Task P} {asked : Bool}
    (hstage : now.stage = h.stage) (hkind : now.kind = h.kind)
    (hp : h.stage.executable = .program p size) (hphase : now.phase = .working task files asked)
    (hleads : Task.Reaches (.start p (h.stage.invocation files)) task)
    (hbody : h.stage.ReportsBeforeEnd h.kind events) :
    h.ReportInv past files input moves now events where
  stage := hstage
  kind := hkind
  started := by
    rw [hphase]
    rintro _ ⟨⟩
  working := by
    rw [hphase]
    rintro _ _ _ ⟨⟩
    exact ⟨rfl, p, size, hp, hleads⟩
  reported := by
    rw [hphase]
    exact .inl ⟨hbody, by rintro _ ⟨⟩⟩

/-- A host whose stage is over, with its report at the end unless it was cancelled. -/
theorem ReportInv.done (hstage : now.stage = h.stage) (hkind : now.kind = h.kind)
    (hphase : now.phase = .over)
    (hreported : now.cancelled = true ∧ h.stage.ReportsBeforeEnd h.kind events ∨
      h.ReportComplete past files input moves events) : h.ReportInv past files input moves now
      events where
  stage := hstage
  kind := hkind
  started := by
    rw [hphase]
    rintro _ ⟨⟩
  working := by
    rw [hphase]
    rintro _ _ _ ⟨⟩
  reported := by
    refine hreported.imp (fun ⟨hcancelled, hbody⟩ => ⟨hbody, fun hlive => ?_⟩) (And.intro · hphase)
    cases hlive.symm.trans hcancelled

/-- While the stage is at work its report is not at its end. -/
theorem ReportInv.reportsBeforeEnd (hk : h.ReportInv past files input moves now events)
    (hphase : now.phase ≠ .over) : h.stage.ReportsBeforeEnd h.kind events :=
  hk.reported.elim And.left fun hdone => absurd hdone.2 hphase

theorem ReportInv.silentStep (hk : h.ReportInv past files input moves now events)
    (hs : now.SilentStep h' more)
    (m : Move) : h.ReportInv past files input (moves ++ [m]) h' (events ++ more) where
  stage := hs.stage.trans hk.stage
  kind := hs.kind.trans hk.kind
  started := by
    rw [hs.phase]
    exact hk.started
  working := by
    rw [hs.phase]
    exact hk.working
  reported := by
    rw [hs.events, List.append_nil, hs.phase]
    refine hk.reported.imp (fun ⟨hbody, hopen⟩ => ⟨hbody, fun hlive => hopen ?_⟩)
      fun ⟨hcomplete, hover⟩ => ⟨hcomplete.concat m, hover⟩
    cases hbefore : now.cancelled with
    | false => rfl
    | true => cases hlive.symm.trans (hs.cancelled hbefore)

/-- **An act of the stage adds to the report or closes it.** -/
theorem ReportInv.actOutcome (hk : h.ReportInv past files input moves now events)
    (hnow : h.run moves = (now, events)) (hsame : now.SameIdentity h')
    (hacts : now.ActOutcome h' more) :
    h.ReportInv past files input (moves ++ [.step]) h' (events ++ more) := by
  have hstage := hsame.stage.trans hk.stage
  have hkind := hsame.kind.trans hk.kind
  cases hacts with
  | goes hphase hnext hphase' hevents =>
    obtain ⟨rfl, p, size, hp, hleads⟩ := hk.working _ _ _ hphase
    have hbody := hk.reportsBeforeEnd (by rw [hphase]; rintro ⟨⟩)
    refine .atWork hstage hkind hp hphase' ?_ (hbody.append (Stage.isCallback_of_program hp) ?_)
    · rcases hnext with rfl | hnext
      · exact hleads
      · exact hleads.tail hnext
    · intro e he
      obtain ⟨-, ⟨bytes, rfl, hbytes⟩ | ⟨rfl, hconcurrent⟩⟩ := hevents e he
      · exact fun _ => hbytes
      · exact ⟨Stage.isCallback_of_program hp, hk.kind.symm.trans hconcurrent⟩
  | ends hphase hend hphase' hevents =>
    obtain ⟨rfl, p, size, hp, hleads⟩ := hk.working _ _ _ hphase
    have hbody := hk.reportsBeforeEnd (by rw [hphase]; rintro ⟨⟩)
    refine .done hstage hkind hphase' ?_
    -- A stage whose host was cancelled ends as well, but nobody is told.
    cases hcancelled : now.cancelled with
    | true =>
      rw [report, if_pos hcancelled] at hevents
      rw [hevents, List.append_nil]
      exact .inl ⟨hsame.cancelled.trans hcancelled, hbody⟩
    | false =>
      rw [report_of_live hcancelled] at hevents
      have hran : h.EndedBy past _ input (moves ++ [.step]) events _ _ :=
        .ran hp rfl (by rw [hnow]) (by rw [hnow]; exact hphase) hleads hend
      exact .inr ⟨events, _, _, _, by rw [hevents], hbody, hran, closing_closingSpec _ _ _⟩

theorem ReportInv.concat (hk : h.ReportInv past files input moves (h.run moves).1 (h.run moves).2)
    (m : Move) :
    h.ReportInv past files input (moves ++ [m]) (h.run (moves ++ [m])).1
      (h.run (moves ++ [m])).2 := by
  rw [run_concat]
  cases m with
  | step =>
    cases hstep : (h.run moves).1.step with
    | none =>
      simp only [move, hstep, Option.getD_none]
      exact hk.silentStep (.refl _) .step
    | some acted =>
      simp only [move, hstep, Option.getD_some]
      obtain ⟨hsame, hacts⟩ := step_actOutcome hstep
      exact hk.actOutcome rfl hsame hacts
  | start past input =>
    simp only [move, start_of_started hk.started past input]
    exact hk.silentStep (.refl _) (.start past input)
  | _ => exact hk.silentStep (move_silentStep (by rintro _ _ ⟨⟩) (by rintro ⟨⟩)) _

/-! ### From the beginning -/

/-- Until it is set going a host reports nothing. -/
theorem run_silentStep (hready : h.phase = .ready files)
    (hmoves : ∀ past input, .start past input ∉ moves) :
    h.SilentStep (h.run moves).1 (h.run moves).2 := by
  induction moves using List.reverseRecOn with
  | nil => exact .refl h
  | append_singleton moves m ih =>
    have hbefore := ih fun past input hmem => hmoves past input (List.mem_append_left _ hmem)
    rw [run_concat]
    refine hbefore.trans ?_
    cases m with
    | step =>
      have hwaits : (h.run moves).1.step = none := by simp only [step, hbefore.phase, hready]
      simp only [move, hwaits, Option.getD_none]
      exact .refl _
    | start past input => exact absurd List.mem_concat_self (hmoves past input)
    | _ => exact move_silentStep (by rintro _ _ ⟨⟩) (by rintro ⟨⟩)

theorem flatMap_report_of_live (hlive : h.cancelled = false) (events : List StageEvent) :
    events.flatMap h.report = events := by
  have hreport : h.report = fun e => [e] := funext (report_of_live hlive)
  rw [hreport, List.flatMap_singleton']

theorem flatMap_report_of_cancelled (hcancelled : h.cancelled = true) (events : List StageEvent) :
    events.flatMap h.report = [] := by
  have hreport : h.report = fun _ => [] := funext fun e => by rw [report, if_pos hcancelled]
  rw [hreport, List.flatMap_eq_nil_iff]
  exact fun _ _ => rfl

/-- **A host that is set going has nothing to report yet**, or all of it if its callback is done. -/
theorem ReportInv.startOutcome (hstill : h.SilentStep now events) (hsame : now.SameIdentity h')
    (hstarts : now.StartOutcome h' past files input more) (moves : List Move) :
    h.ReportInv past files input moves h' (events ++ more) := by
  have hstage := hsame.stage.trans hstill.stage
  have hkind := hsame.kind.trans hstill.kind
  rw [hstill.events, List.nil_append]
  cases hstarts with
  | works hp hphase hevents =>
    rw [hstill.stage] at hp hphase
    rw [hevents]
    exact .atWork hstage hkind hp hphase .refl (.nil h.stage h.kind)
  | @called c result left hc hresult hphase hevents =>
    rw [hstill.stage] at hc hresult
    have hbody := Stage.reportsBeforeEnd_ofCall (Stage.isCallback_of_callback hc) h.kind result left
    refine .done hstage hkind hphase ?_
    cases hcancelled : now.cancelled with
    | true =>
      rw [hevents, flatMap_report_of_cancelled hcancelled]
      exact .inl ⟨hsame.cancelled.trans hcancelled, .nil h.stage h.kind⟩
    | false =>
      rw [flatMap_report_of_live hcancelled, ← Yield.events_ofCall, Yield.events,
        Yield.files_ofCall] at hevents
      exact .inr ⟨_, _, _, _, hevents, hbody, .called hc hresult, closing_closingSpec _ _ _⟩

theorem ReportInv.start (hready : h.phase = .ready files)
    (hmoves : ∀ past input, .start past input ∉ moves)
    (hstart : ((h.run moves).1.start past input).2.2 = none) :
    h.ReportInv past files input (moves ++ [.start past input])
      (h.run (moves ++ [.start past input])).1
      (h.run (moves ++ [.start past input])).2 := by
  have hstill := run_silentStep hready hmoves
  obtain ⟨hsame, hstarts⟩ := start_startOutcome (hstill.phase.trans hready)
    (show (h.run moves).1.start past input = (_, _, none) by rw [← hstart])
  rw [run_concat]
  exact .startOutcome hstill hsame hstarts _

end Moves

/-! ## Being cancelled -/

theorem launch_cancelled (h : Host P) (image : Image) (p : P) (files : Snapshot) :
    (h.launch image p files).1.cancelled = h.cancelled := by
  unfold launch
  split <;> rfl

theorem startConcurrent_cancelled (h : Host P) (image : Image) (p : P) (files : Snapshot)
    (input : Option Bytes) :
    (h.startConcurrent image p files input).1.cancelled = h.cancelled := by
  cases input with
  | none => exact launch_cancelled h image p files
  | some data =>
    cases hwrite : h.writeInput data with
    | ok fed =>
      simp only [startConcurrent, hwrite]
      exact (launch_cancelled fed image p files).trans (writeInput_sameIdentity hwrite).1.cancelled
    | error why => simp only [startConcurrent, hwrite]

theorem start_of_cancelled (hcancelled : h.cancelled = true) (past : List Callback.Call)
    (input : Option Bytes) :
    (h.start past input).2.1 = [] ∧ (h.start past input).1.cancelled = true := by
  cases hphase : h.phase with
  | ready files =>
    simp only [start, hphase]
    split
    · rename_i image p size hsupply hp
      exact ⟨rfl, (startConcurrent_cancelled h image p files input).trans hcancelled⟩
    · unfold startInline
      cases hexec : h.stage.executable with
      | callback c => exact ⟨flatMap_report_of_cancelled hcancelled _, hcancelled⟩
      | program p size => exact ⟨rfl, hcancelled⟩
  | _ =>
    have hstarted := start_of_started (h := h) (by rw [hphase]; rintro _ ⟨⟩) past input
    rw [hstarted]
    exact ⟨rfl, hcancelled⟩

theorem move_of_cancelled (hcancelled : h.cancelled = true) (m : Move) :
    (h.move m).2 = [] ∧ (h.move m).1.cancelled = true := by
  cases m with
  | start past input => exact start_of_cancelled hcancelled past input
  | step =>
    cases hstep : h.step with
    | none =>
      simp only [move, hstep, Option.getD_none]
      exact ⟨trivial, hcancelled⟩
    | some acted =>
      simp only [move, hstep, Option.getD_some]
      obtain ⟨hsame, hacts⟩ := step_actOutcome hstep
      refine ⟨?_, hsame.cancelled.trans hcancelled⟩
      cases hacts with
      | goes _ _ _ hevents =>
        refine List.eq_nil_iff_forall_not_mem.mpr fun e he => ?_
        cases hcancelled.symm.trans (hevents e he).1
      | ends _ _ _ hevents => rw [hevents, report, if_pos hcancelled]
  | _ =>
    exact SilentStep.of_cancelled (move_silentStep (by rintro _ _ ⟨⟩) (by rintro ⟨⟩)) hcancelled

/-- **A host that was cancelled reports nothing any more**, whatever is done to it. -/
theorem run_of_cancelled (hcancelled : h.cancelled = true) (moves : List Move) :
    (h.run moves).2 = [] ∧ (h.run moves).1.cancelled = true := by
  induction moves using List.reverseRecOn with
  | nil => exact ⟨rfl, hcancelled⟩
  | append_singleton moves m ih =>
    obtain ⟨hevents, hcancelled'⟩ := ih
    obtain ⟨hmore, hstill⟩ := move_of_cancelled hcancelled' m
    rw [run_concat, hevents, hmore]
    exact ⟨rfl, hstill⟩

/-! ## The protocol -/

/-- What a host keeps to that has been set going with this input, whatever else was done to it
before and since. -/
structure ProtocolSpec (h : Host P) (past : List Callback.Call) (files : Snapshot)
    (input : Option Bytes) (moves : List Move) :
    Prop where
  /-- When the stage is over its report has come to its end. -/
  complete : (h.run moves).1.cancelled = false → (h.run moves).1.phase = .over →
    h.ReportComplete past files input moves (h.run moves).2
  /-- Until then it is without one. -/
  incomplete : (h.run moves).1.cancelled = false → (h.run moves).1.phase ≠ .over →
    h.stage.ReportsBeforeEnd h.kind (h.run moves).2
  /-- A program that is at its end has it reported by the next act. -/
  ending : (h.run moves).1.cancelled = false → ∀ task given asked verdict left,
    (h.run moves).1.phase = .working task given asked → task.act = .finish verdict left →
      given = files ∧ ∃ e, e.ClosingSpec verdict files left ∧
        (h.run moves).1.step = some ({ (h.run moves).1 with phase := .over }, [e])
  /-- The report of a host that was cancelled may break off anywhere. -/
  cut : (h.run moves).1.cancelled = true → ∃ body verdict left e,
    (h.run moves).2 <+: body ++ [e] ∧ h.stage.ReportsBeforeEnd h.kind body ∧
      e.ClosingSpec verdict files left
  silent : (h.run moves).1.cancelled = true → ∀ more, ((h.run moves).1.run more).2 = []
  /-- A program that writes more than nothing is told that it cannot. -/
  refused : (h.run moves).1.cancelled = true → ∀ task given asked data answer,
    (h.run moves).1.phase = .working task given asked → task.act = .write data answer → data ≠ [] →
      (h.run moves).1.step = some ({ (h.run moves).1 with
        phase := .working (answer (.error cannotWrite)) given asked }, [])
  /-- To set a host going again does nothing. -/
  again : ∀ past input, (h.run moves).1.start past input = ((h.run moves).1, [], none)

theorem ReportInv.protocolSpec {past : List Callback.Call} {files : Snapshot} {input : Option Bytes}
    (hk : h.ReportInv past files input moves (h.run moves).1 (h.run moves).2) :
    h.ProtocolSpec past files input moves where
  complete := fun hlive hover =>
    hk.reported.elim (fun hopen => absurd hover (hopen.2 hlive)) And.left
  incomplete := fun _ hphase => hk.reportsBeforeEnd hphase
  ending := by
    intro hlive task given asked verdict left hphase hend
    obtain ⟨rfl, -⟩ := hk.working _ _ _ hphase
    refine ⟨rfl, _, closing_closingSpec verdict given left, ?_⟩
    simp only [step, hphase, hend, report_of_live hlive]
  cut := by
    intro _
    rcases hk.reported with ⟨hbody, -⟩ | ⟨⟨body, verdict, left, e, hevents, hbody, -, hcloses⟩, -⟩
    · exact ⟨_, .done, files, _, List.prefix_append _ _, hbody,
        closing_closingSpec .done files files⟩
    · exact ⟨body, verdict, left, e, hevents ▸ List.prefix_rfl, hbody, hcloses⟩
  silent := fun hcancelled more => (run_of_cancelled hcancelled more).1
  refused := by
    intro hcancelled task given asked data answer hphase hact hdata
    have hsome : data.isEmpty = false := by simpa using hdata
    simp only [step, hphase, hact, hsome, hcancelled, Bool.false_eq_true, if_false, if_true]
  again := start_of_started hk.started

/-- **A stage reports data and requests for input, then exactly one event that closes its report**,
and nothing once it is cancelled. Its host was set going, not refused, after some moves, and any
others came after that. -/
theorem keeps_protocol {files : Snapshot} {before : List Move} {past : List Callback.Call}
    {input : Option Bytes} (hready : h.phase = .ready files)
    (hbefore : ∀ past input, .start past input ∉ before)
    (hstart : ((h.run before).1.start past input).2.2 = none) (after : List Move) :
    h.ProtocolSpec past files input (before ++ .start past input :: after) := by
  have hkept : h.ReportInv past files input (before ++ .start past input :: after)
      (h.run (before ++ .start past input :: after)).1
      (h.run (before ++ .start past input :: after)).2 := by
    induction after using List.reverseRecOn with
    | nil => exact .start hready hbefore hstart
    | append_singleton after m ih =>
      have hassoc : before ++ .start past input :: (after ++ [m]) =
          (before ++ .start past input :: after) ++ [m] := by
        rw [List.append_assoc]
        rfl
      rw [hassoc]
      exact ih.concat m
  exact hkept.protocolSpec

/-- A script beside others that writes a file, turns the lines of its input round and fails. -/
def asking : Host Script :=
  .concurrent 3 ⟨["s"], [], .program
    ⟨"s", [.write "f" "x", .filter [.map .reverse] false, .fail "no"]⟩ 0⟩ .null 4
    ⟨fun _ => none, false⟩

/-- It asks for input, gets a line, and is set going again when its input is over. -/
def feeding : List Move :=
  [.step, .write [97, 98, 10], .step, .step, .step, .close, .start [] none, .step, .step, .step]

theorem keeps_protocol_feeding :
    asking.phase = .ready .null ∧ (∀ past input, Move.start past input ∉ []) ∧
      ((asking.run []).1.start [] none).2.2 = none ∧
      (asking.run (.start [] none :: feeding)).2 =
        [.wantsInput, .data [98, 97, 10], .failed "no" (some (.object [("f", .text "x\n")]))] ∧
      asking.ReportComplete [] .null none (.start [] none :: feeding)
        (asking.run (.start [] none :: feeding)).2 := by
  have hready : asking.phase = .ready .null := rfl
  have hbefore : ∀ past input, Move.start past input ∉ [] := fun _ _ => List.not_mem_nil
  have hstart : ((asking.run []).1.start [] none).2.2 = none := rfl
  have hprotocol := keeps_protocol hready hbefore hstart feeding
  exact ⟨hready, hbefore, hstart, rfl, hprotocol.complete rfl rfl⟩

end Host

end Pipework
