import Pipework.Proofs.Reading
import Pipework.Proofs.Script.Filter

/-!
# Steps one after another

Some steps of a script come to their end, having put out what they write, and leave files and input
to the steps behind them, whatever these are (`StepsPass`); or the script ends with one of them, and
those behind it make no difference (`StepsFail`).

* `StepsPass.append`, `StepsPass.stepsFail`, `StepsFail.append` — steps behind each other.
* `stepsPass_emit` and the others — one step, a lemma for each kind and for each way to fail.
* `stepsEnd` — any steps, by induction on them.
-/

namespace Pipework

namespace Script

variable {inv : Invocation} {steps more : List Step} {files files₁ files₂ : Snapshot}
  {input left left₁ : Bytes} {pieces pieces₁ : List Bytes} {y : Yield}

/-- The steps come to their end, and those behind them go on from there. -/
def StepsPass (inv : Invocation) (steps : List Step) (files : Snapshot) (input : Bytes)
    (pieces : List Bytes) (files' : Snapshot) (left : Bytes) : Prop :=
  ∀ more y, (State.before (steps ++ more) files).Denotes inv input y ↔
    ∃ y', (State.before more files').Denotes inv left y' ∧ y = y'.after pieces

/-- The script ends with one of the steps, whatever stands behind them. -/
structure StepsFail (inv : Invocation) (steps : List Step) (files : Snapshot) (input : Bytes)
    (y : Yield) : Prop where
  failed : ∃ why, y.verdict = .failed why
  only : ∀ more y', (State.before (steps ++ more) files).Denotes inv input y' ↔ y' = y

/-! ## Steps behind each other -/

theorem StepsPass.nil : StepsPass inv [] files input [] files input := fun more y => by
  simp [Yield.after]

theorem StepsPass.append (h : StepsPass inv steps files input pieces files₁ left)
    (h' : StepsPass inv more files₁ left pieces₁ files₂ left₁) :
    StepsPass inv (steps ++ more) files input (pieces ++ pieces₁) files₂ left₁ := by
  intro behind y
  rw [List.append_assoc, h]
  constructor
  · rintro ⟨y₁, hy₁, rfl⟩
    obtain ⟨y', hy', rfl⟩ := (h' behind y₁).mp hy₁
    exact ⟨y', hy', Yield.after_after ..⟩
  · rintro ⟨y', hy', rfl⟩
    exact ⟨_, (h' behind _).mpr ⟨y', hy', rfl⟩, (Yield.after_after ..).symm⟩

theorem StepsPass.stepsFail (h : StepsPass inv steps files input pieces files₁ left)
    (h' : StepsFail inv more files₁ left y) :
    StepsFail inv (steps ++ more) files input (y.after pieces) where
  failed := h'.failed
  only behind y' := by
    rw [List.append_assoc, h]
    constructor
    · rintro ⟨y₁, hy₁, rfl⟩
      rw [(h'.only behind y₁).mp hy₁]
    · rintro rfl
      exact ⟨y, (h'.only behind y).mpr rfl, rfl⟩

theorem StepsFail.append (h : StepsFail inv steps files input y) (more : List Step) :
    StepsFail inv (steps ++ more) files input y where
  failed := h.failed
  only behind y' := List.append_assoc .. ▸ h.only (more ++ behind) y'

/-! ## One step -/

theorem State.denotes_congr {s s' : State} (h : s.demand inv = s'.demand inv) :
    s.Denotes inv input y ↔ s'.Denotes inv input y := by
  have hrun : Program.demand (P := Script) (Run.mk inv s) =
      Program.demand (P := Script) (Run.mk inv s') := congrArg (Demand.map (Run.mk inv)) h
  exact ⟨Program.Denotes.of_demand hrun.symm, Program.Denotes.of_demand hrun⟩

theorem State.denotes_finish {s : State} {verdict : Verdict}
    (h : s.demand inv = .finish verdict files) :
    s.Denotes inv input y ↔ y = ⟨[], verdict, files⟩ := by
  have hrun : Program.demand (P := Script) (Run.mk inv s) = .finish verdict files :=
    congrArg (Demand.map (Run.mk inv)) h
  exact Program.denotes_finish hrun input y

theorem StepsFail.of_finish {why : Fault}
    (h : ∀ more, (State.before (steps ++ more) files).demand inv = .finish (.failed why) files) :
    StepsFail inv steps files input ⟨[], .failed why, files⟩ where
  failed := ⟨why, rfl⟩
  only more _ := State.denotes_finish (h more)

theorem stepsPass_emit (text : String) (files : Snapshot) (input : Bytes) :
    StepsPass inv [.emit text] files input
      [textLine (expand inv text)] files input := fun more y => by
  have hdemand : (State.before ([.emit text] ++ more) files).demand inv =
      (State.writing (textLine (expand inv text)) files (.before more files)).demand inv := rfl
  exact (State.denotes_congr hdemand).trans (denotes_writing _ _ _ _ _)

theorem stepsPass_read {path content : String}
    (hread : Snapshot.read? files (expand inv path) = some content) (input : Bytes) :
    StepsPass inv [.read path] files input
      (if (Utf8.encode content).isEmpty then [] else [Utf8.encode content]) files input :=
  fun more y => by
    have hdemand : (State.before ([.read path] ++ more) files).demand inv =
        (State.writing (Utf8.encode content) files (.before more files)).demand inv := by
      simp only [State.demand, List.singleton_append, begin, hread]
    rw [State.denotes_congr hdemand, denotes_data]
    simp only [Yield.putOut_eq_after]

theorem stepsFail_read {path : String} (hread : Snapshot.read? files (expand inv path) = none)
    (input : Bytes) : StepsFail inv [.read path] files input
      ⟨[], .failed (.of (expand inv path ++ ": No such file or directory")), files⟩ :=
  .of_finish fun more => by simp only [State.demand, List.singleton_append, begin, hread]

theorem stepsPass_write {path text : String}
    (hwrite : Snapshot.write files (expand inv path) (expand inv text ++ "\n") = .ok files₁)
    (input : Bytes) :
    StepsPass inv [.write path text] files input [] files₁ input := fun more y => by
  have hdemand : (State.before ([.write path text] ++ more) files).demand inv =
      (State.before more files₁).demand inv := by
    simp only [State.demand, List.singleton_append, begin, hwrite]
  rw [State.denotes_congr hdemand]
  exact StepsPass.nil more y

theorem stepsFail_write {path text : String} {why : Fault}
    (hwrite : Snapshot.write files (expand inv path) (expand inv text ++ "\n") = .error why)
    (input : Bytes) : StepsFail inv [.write path text] files input ⟨[], .failed why, files⟩ :=
  .of_finish fun more => by simp only [State.demand, List.singleton_append, begin, hwrite]

theorem stepsFail_fail (message : String) (files : Snapshot) (input : Bytes) :
    StepsFail inv [.fail message] files input ⟨[], .failed (.of (expand inv message)), files⟩ :=
  .of_finish fun _ => rfl

/-- A filter that starts takes lines, and what its chain makes of them is written. -/
theorem stepsPass_filter {chain : List Op} {count : Bool} {f : Filter}
    (hstart : Filter.start inv chain count files = .ok (f, files₁)) (input : Bytes) :
    ∃ files₂ left taken, LineBuffer.lines input = taken ++ LineBuffer.lines left ∧
      LinesRead f.chain [] (LineBuffer.lines input) taken ∧ TeeSpec f.chain [] taken files₁ files₂ ∧
      StepsPass inv [.filter chain count] files input
        (reported count (chained f.chain taken).length (chained f.chain taken)) files₂ left := by
  obtain ⟨hf, hholds⟩ := start_chain hstart
  obtain ⟨files₂, left, taken, new, hleft, htaking, hnew, hteed, hdenotes⟩ :=
    ReadsShare.filtering inv f.chain count input [] files₁ hholds
  rw [chained_nil, List.nil_append, List.nil_append] at hnew
  simp only [chained_nil, List.nil_append, List.length_nil, ← hnew, ← hf] at hdenotes
  refine ⟨files₂, left, taken, hleft, htaking, hteed, fun more y => ?_⟩
  have hdemand : (State.before ([.filter chain count] ++ more) files).demand inv =
      (State.filtering f more files₁).demand inv := by
    simp only [State.demand, List.singleton_append, begin, hstart]
  exact (State.denotes_congr hdemand).trans (hdenotes more y)

theorem stepsFail_filter {chain : List Op} {count : Bool} {why : Fault}
    (hstart : Filter.start inv chain count files = .error why) (input : Bytes) :
    StepsFail inv [.filter chain count] files input ⟨[], .failed why, files⟩ :=
  .of_finish fun more => by simp only [State.demand, List.singleton_append, begin, hstart]

/-! ## Any steps -/

/-- The steps come to their end, or the script ends with one of them. -/
def StepsEnd (inv : Invocation) (steps : List Step) (files : Snapshot) (input : Bytes) : Prop :=
  (∃ pieces files' left, StepsPass inv steps files input pieces files' left) ∨
    ∃ y, StepsFail inv steps files input y

theorem StepsPass.stepsEnd {step : Step} (h : StepsPass inv [step] files input pieces files₁ left)
    (hrest : StepsEnd inv steps files₁ left) : StepsEnd inv (step :: steps) files input :=
  hrest.imp (fun ⟨_, _, _, hpasses⟩ => ⟨_, _, _, h.append hpasses⟩)
    fun ⟨_, hfails⟩ => ⟨_, h.stepsFail hfails⟩

theorem StepsFail.stepsEnd {step : Step} (h : StepsFail inv [step] files input y)
    (rest : List Step) : StepsEnd inv (step :: rest) files input :=
  Or.inr ⟨y, h.append rest⟩

/-- **Any steps settle, whatever the files and the input.** -/
theorem stepsEnd (inv : Invocation) (steps : List Step) (files : Snapshot) (input : Bytes) :
    StepsEnd inv steps files input := by
  induction steps generalizing files input with
  | nil => exact Or.inl ⟨[], files, input, .nil⟩
  | cons step rest ih =>
    cases step with
    | emit text => exact (stepsPass_emit text files input).stepsEnd (ih files input)
    | read path =>
      cases hread : Snapshot.read? files (expand inv path) with
      | none => exact (stepsFail_read hread input).stepsEnd rest
      | some content => exact (stepsPass_read hread input).stepsEnd (ih files input)
    | write path text =>
      cases hwrite : Snapshot.write files (expand inv path) (expand inv text ++ "\n") with
      | error why => exact (stepsFail_write hwrite input).stepsEnd rest
      | ok files₁ => exact (stepsPass_write hwrite input).stepsEnd (ih files₁ input)
    | fail message => exact (stepsFail_fail message files input).stepsEnd rest
    | filter chain count =>
      cases hstart : Filter.start inv chain count files with
      | error why => exact (stepsFail_filter hstart input).stepsEnd rest
      | ok started =>
        obtain ⟨files₂, left, taken, -, -, -, hpasses⟩ := stepsPass_filter hstart input
        exact hpasses.stepsEnd (ih files₂ left)

/-- A script yields what its steps denote. -/
theorem yields_of_denotes {name : String} {steps : List Step} {input : Bytes} {y : Yield}
    (h : (State.before steps inv.files).Denotes inv input y) :
    (Task.start (P := Script) ⟨name, steps⟩ inv).Yields input y :=
  Task.ReadsPlainly.yields (.start (.inl (readsOnly_lines _ inv)) input) h

end Script

end Pipework
