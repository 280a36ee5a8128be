import Pipework.Proofs.Run.Reached

/-!
# The status of a run

The status of a run is the part of it that has to do with its end: whether it is active, how it
has ended, what was reported, which hosts were dismissed, and which snapshots, ends of input and
reports are among its effects (`Session.marks`). What a run does with the output, the ends and the
requests of its stages leaves it alone; setting a stage going adds the snapshot that the stage is
given (`spawnStage_status`).
-/

namespace Pipework

/-! ## Marks -/

namespace Effect

def exported? : Effect → Option Snapshot
  | .exported files => some files
  | _ => none

def report? : Effect → Option Report
  | .completed report => some report
  | _ => none

/-- A snapshot given out, the end of typed input, or a report. -/
def isMark : Effect → Bool
  | .exported _ | .completed _ | .lineRead none => true
  | _ => false

end Effect

namespace Session

variable {F : Type}

/-- The snapshots that were given out, in order. -/
def exports (s : Session F) : List Snapshot := s.effects.reverse.filterMap Effect.exported?

/-- The reports that went out, in order. -/
def reports (s : Session F) : List Report := s.effects.reverse.filterMap Effect.report?

/-- How often the end of typed input was handed out. -/
def lineEnds (s : Session F) : Nat := s.effects.count (.lineRead none)

def marks (s : Session F) : List Effect := s.effects.reverse.filter Effect.isMark

@[simp] theorem marks_record (s : Session F) (effects : List Effect) :
    (s.record effects).marks = s.marks ++ effects.filter Effect.isMark := by
  simp [marks, record]

theorem filterMap_marks {α : Type} {f : Effect → Option α} (hf : ∀ e, e.isMark = false → f e = none)
    (effects : List Effect) : (effects.filter Effect.isMark).filterMap f = effects.filterMap f := by
  induction effects with
  | nil => rfl
  | cons e effects ih =>
    rw [List.filter_cons]
    split
    · rw [List.filterMap_cons, List.filterMap_cons, ih]
    · rename_i he
      rw [List.filterMap_cons, hf e (by simpa using he), ih]

theorem exports_eq (s : Session F) : s.exports = s.marks.filterMap Effect.exported? := by
  refine (filterMap_marks (fun e he => ?_) _).symm
  cases e <;> first | rfl | cases he

theorem reports_eq (s : Session F) : s.reports = s.marks.filterMap Effect.report? := by
  refine (filterMap_marks (fun e he => ?_) _).symm
  cases e <;> first | rfl | cases he

theorem lineEnds_eq (s : Session F) : s.lineEnds = s.marks.count (.lineRead none) := by
  rw [marks, List.count_filter rfl, List.count_reverse]
  rfl

variable {s s' : Session F} {more : List Effect}

theorem exports_congr (h : s'.marks = s.marks) : s'.exports = s.exports := by
  rw [exports_eq, h, ← exports_eq]

theorem reports_congr (h : s'.marks = s.marks) : s'.reports = s.reports := by
  rw [reports_eq, h, ← reports_eq]

theorem lineEnds_congr (h : s'.marks = s.marks) : s'.lineEnds = s.lineEnds := by
  rw [lineEnds_eq, h, ← lineEnds_eq]

theorem exports_append (h : s'.marks = s.marks ++ more) :
    s'.exports = s.exports ++ more.filterMap Effect.exported? := by
  rw [exports_eq, h, List.filterMap_append, ← exports_eq]

theorem reports_append (h : s'.marks = s.marks ++ more) :
    s'.reports = s.reports ++ more.filterMap Effect.report? := by
  rw [reports_eq, h, List.filterMap_append, ← reports_eq]

theorem lineEnds_append (h : s'.marks = s.marks ++ more) :
    s'.lineEnds = s.lineEnds + more.count (.lineRead none) := by
  rw [lineEnds_eq, h, List.count_append, ← lineEnds_eq]

end Session

theorem Console.print_marks (c : Console) (text : String) :
    (c.print text).filter Effect.isMark = [] := by
  unfold print
  split <;> rfl

/-- A factory marks nothing. -/
theorem Factory.spawn_marks {P : Type} [Program P] {f f' : Factory} {console : Console}
    {index : Nat}
    {stage : Stage P} {files : Snapshot} {effects : List Effect} {host : Except Failure (Host P)}
    (hspawn : f.spawn console index stage files = (effects, f', host)) :
    effects.filter Effect.isMark = [] := by
  rw [← List.filterMap_eq_filter]
  exact (spawn_spec _ (fun _ => rfl) rfl hspawn).1

/-- While a line is resolved only what is fetched is recorded, and its status. -/
theorem Resolver.statements_filterMap {P α : Type} {r : Resolver P} {past : List Request}
    {parsed : List Statement} {effects : List Effect} {result : Except Failure (List (Stage P))}
    (f : Effect → Option α)
    (hstatus : ∀ text, f (.status text) = none) (hclear : f .clearStatus = none)
    (hfetch : ∀ args env, f (.fetch args env) = none)
    (h : r.statements past parsed = (effects, result)) : effects.filterMap f = [] := by
  have hcommand : ∀ past (c : Command), (r.command past c).1.filterMap f = [] := by
    intro past c
    unfold command Console.status Console.clearStatus
    cases r.console.statuses <;> simp [hstatus, hclear, hfetch]
  have hchain : ∀ commands : List Command, (r.chain past commands).1.filterMap f = [] := by
    intro commands
    induction commands with
    | nil => rfl
    | cons c rest ih =>
      unfold chain
      split
      · rename_i hrest
        rw [hrest] at ih
        exact ih
      · rename_i hrest
        rw [hrest] at ih
        have hc := hcommand (rest.map r.request ++ past) c
        split <;>
          (rename_i hmade
           rw [hmade] at hc
           rw [List.filterMap_append, ih, hc]
           rfl)
  unfold statements at h
  split at h
  · cases h
    rfl
  · rename_i c
    have hc := hchain c.chain
    rw [h] at hc
    exact hc
  · cases h
    rfl
  · cases h
    rfl

/-- What is recorded while a line is resolved is neither printed nor marked. -/
theorem Resolver.statements_effects {P : Type} {r : Resolver P} {past : List Request}
    {parsed : List Statement} {effects : List Effect} {result : Except Failure (List (Stage P))}
    (h : r.statements past parsed = (effects, result)) :
    effects.filter Effect.isMark = [] ∧ effects.filterMap Effect.printed? = [] := by
  refine ⟨?_, statements_filterMap _ (fun _ => rfl) rfl (fun _ _ => rfl) h⟩
  rw [← List.filterMap_eq_filter]
  exact statements_filterMap _ (fun _ => rfl) rfl (fun _ _ => rfl) h

theorem Resolver.marks_resolved {P F : Type} {r : Resolver P} {past : List Request}
    {parsed : List Statement} {effects : List Effect} {result : Except Failure (List (Stage P))}
    (h : r.statements past parsed = (effects, result)) (s : Session F) :
    (s.record effects).marks = s.marks := by
  rw [Session.marks_record, (statements_effects h).1, List.append_nil]

namespace Run

variable {P F : Type} [Program P] [Filesystem F] {ctx : Setting P}

structure Status (P : Type) [Program P] where
  active : Bool
  killRequested : Bool
  outcome : Option Outcome
  report : Option Report
  completions : Nat
  dismissed : List (Host P)
  /-- Lines can be typed in. -/
  typed : Bool
  marks : List Effect

def status (r : Run P F) : Status P where
  active := r.active
  killRequested := r.killRequested
  outcome := r.outcome
  report := r.report
  completions := r.completions
  dismissed := r.dismissed
  typed := r.session.input.isSome
  marks := r.session.marks

/-- More effects were marked. -/
def Status.mark (s : Status P) (more : List Effect) : Status P :=
  { s with marks := s.marks ++ more }

@[simp] theorem Status.mark_nil (s : Status P) : s.mark [] = s := by
  simp [mark]

/-! ## What leaves it alone -/

variable (r : Run P F)

@[simp] theorem status_record (effects : List Effect) :
    (r.record effects).status = r.status.mark (effects.filter Effect.isMark) := by
  simp only [status, record, Session.marks_record]
  rfl

@[simp] theorem status_note (n : Note) : (r.note n).status = r.status := rfl

@[simp] theorem status_takeUp : r.takeUp.status = r.status := by
  unfold takeUp
  split <;> rfl

@[simp] theorem status_merge (changed : Option Snapshot) :
    (r.merge changed).status = r.status := by
  have hrecord : ∀ (s : Snapshot) (refusal : Option String),
      (r.record [.imported s refusal]).status = r.status := by
    intro s refusal
    rw [status_record]
    exact r.status.mark_nil
  unfold merge
  split
  · rfl
  · split
    · exact hrecord _ _
    · exact hrecord _ _

@[simp] theorem status_retire (index : Nat) (changed : Option Snapshot) :
    (r.retire index changed).status = r.status := by
  have hmerge := status_merge { r with finished := index :: r.finished } changed
  unfold retire
  simp only
  split <;> exact hmerge

@[simp] theorem status_onData (ctx : Setting P) (index : Nat) (data : Bytes) :
    (onData ctx index data r).status = r.status := by
  unfold onData
  split
  · rw [status_record, Console.print_marks, Status.mark_nil]
  · split
    · rfl
    · split
      · split <;> rfl
      · rfl

@[simp] theorem status_onRequest (index : Nat) : (onRequest index r).status = r.status := by
  unfold onRequest
  split
  · split <;> rfl
  · rfl

@[simp] theorem status_onLine (line : Option String) : (onLine line r).status = r.status := by
  unfold onLine
  split
  · rfl
  · simp only
    split <;> rfl
  · rfl

@[simp] theorem status_stepWork (index : Nat) : (r.stepWork index).status = r.status := by
  unfold stepWork
  split
  · rfl
  · split <;> rfl

@[simp] theorem status_taken (index : Nat) (e : StageEvent) (mailbox : Mailbox (Nat × StageEvent)) :
    (r.taken index e mailbox).status = r.status := rfl

/-! ## Setting stages going -/

@[simp] theorem status_takeIn (h : Host P) (events : List StageEvent) :
    (r.takeIn h events).status = r.status := by
  unfold takeIn
  simp only
  split <;> rfl

theorem status_equip (index : Nat) (effects : List Effect) (factory : Factory) :
    (r.equip index effects factory).status = r.status.mark (effects.filter Effect.isMark) :=
  status_record r effects

variable {r}

/-- **Setting a stage going adds only the snapshot that the stage is given.** -/
theorem spawnStage_status {index : Nat} {stage : Stage P} (hstage : r.stages[index]? = some stage)
    (hactive : (spawnStage ctx index r).active = true) :
    (spawnStage ctx index r).status = r.status.mark [.exported r.session.snapshot] := by
  unfold spawnStage at hactive ⊢
  simp only [hstage] at hactive ⊢
  generalize hspawn : r.session.factory.spawn ctx.console index stage _ = made at hactive ⊢
  obtain ⟨effects, factory, result⟩ := made
  cases result with
  | error why =>
    simp only [failStage_inactive] at hactive
    cases hactive
  | ok fresh =>
    obtain ⟨h, events, -, hsettle⟩ := settle_spec hactive
    have hmarks : (Effect.exported r.session.snapshot :: effects).filter Effect.isMark =
        [.exported r.session.snapshot] := by
      rw [List.filter_cons_of_pos rfl, Factory.spawn_marks hspawn]
    simp only [hsettle, status_takeIn, status_note]
    exact (status_equip r index _ factory).trans (by rw [hmarks])

end Run

end Pipework
