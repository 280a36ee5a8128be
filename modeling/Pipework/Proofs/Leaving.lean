import Mathlib.Logic.Relation
import Pipework.FileStore
import Pipework.Proofs.Waiting

/-!
# What stages leave

A stage edits the snapshot that it is given and leaves it as it is when it ends. What it can leave
takes in every input, every way its reads and writes can turn out, and every place where it can stop
(`Stage.LeavesFiles`). A changed snapshot that a host reports is one that its stage leaves of what
some store wrote out (`Host.step_taskReached`, `Host.start_taskReached`).

* `Demand.Preserves`, `Act.Preserves` — what holds whatever is answered; `Task.end_of_preserves`
  carries it through a whole task.
-/

namespace Pipework

/-! ## Whatever is answered -/

/-- Any answer leads to a state of which `Q` holds, and an end leaves files of which `F` does. -/
def Demand.Preserves {σ : Type} (Q : σ → Prop) (F : Snapshot → Prop) : Demand σ → Prop
  | .line answer => ∀ a, Q (answer a)
  | .rest answer => ∀ a, Q (answer a)
  | .piece _ answer => ∀ a, Q (answer a)
  | .write _ answer => ∀ a, Q (answer a)
  | .finish _ files => F files

theorem Demand.preserves_map {σ τ : Type} {f : σ → τ} {Q : τ → Prop} {F : Snapshot → Prop}
    {d : Demand σ} : (d.map f).Preserves Q F ↔ d.Preserves (fun s => Q (f s)) F := by
  cases d <;> rfl

/-- The same of an act. -/
def Act.Preserves {P : Type} [Program P] (Q : Program.State P → Prop) (F : Snapshot → Prop) :
    Act P → Prop
  | .silent next => Q next.state
  | .read _ answer => ∀ a, Q (answer a).state
  | .write _ answer => ∀ a, Q (answer a).state
  | .finish _ files => F files

namespace Task

variable {P : Type} [Program P]

/-- A task after one act of it; what it reads, and whether it can read and write at all, is open. -/
inductive StepsTo : Task P → Task P → Prop where
  | silent {t next : Task P} (hact : t.act = .silent next) : StepsTo t next
  | read {t : Task P} {limit answer} (hact : t.act = .read limit answer)
      (got : Except Fault Bytes) : StepsTo t (answer got)
  | write {t : Task P} {data answer} (hact : t.act = .write data answer)
      (got : Except Fault Unit) : StepsTo t (answer got)

/-- What a task can come to. -/
abbrev Reaches : Task P → Task P → Prop := Relation.ReflTransGen StepsTo

variable {t t' : Task P} {Q : Program.State P → Prop} {F : Snapshot → Prop}

/-- A task that only gathers input stays in its state; else it goes where its demand leads. -/
theorem act_preserves (hstate : Q t.state) (honly : (Program.demand t.state).Preserves Q F) :
    t.act.Preserves Q F := by
  unfold act
  split <;> rename_i hd <;> rw [hd] at honly
  · split
    · exact honly _
    · exact honly _
    · intro got
      cases got with
      | ok data => exact hstate
      | error why => exact honly _
  · intro got
    unfold gotRest
    split
    · exact honly _
    · exact hstate
    · exact honly _
  · exact fun got => honly got
  · exact fun got => honly got
  · exact honly

theorem StepsTo.preserves (hall : ∀ s, Q s → (Program.demand s).Preserves Q F) (h : StepsTo t t')
    (ht : Q t.state) : Q t'.state := by
  have honly := act_preserves ht (hall _ ht)
  cases h with
  | silent hact =>
    rw [hact] at honly
    exact honly
  | read hact got =>
    rw [hact] at honly
    exact honly got
  | write hact got =>
    rw [hact] at honly
    exact honly got

theorem Reaches.invariant (hall : ∀ s, Q s → (Program.demand s).Preserves Q F) (h : Reaches t t')
    (ht : Q t.state) : Q t'.state := by
  induction h with
  | refl => exact ht
  | tail _ hnext ih => exact hnext.preserves hall ih

/-- **What every answer keeps holds wherever a task ends.** -/
theorem end_of_preserves (hall : ∀ s, Q s → (Program.demand s).Preserves Q F)
    (hleads : Reaches t t') (ht : Q t.state) {verdict : Verdict} {files : Snapshot}
    (hend : t'.act = .finish verdict files) : F files := by
  have hstate := hleads.invariant hall ht
  have honly := act_preserves hstate (hall _ hstate)
  rw [hend] at honly
  exact honly

end Task

/-! ## Stages -/

/-- What a stage can leave of a snapshot that it is given. -/
inductive Stage.LeavesFiles {P : Type} [Program P] (stage : Stage P) (given : Snapshot) :
    Snapshot → Prop where
  | called {c : Callback} (hc : stage.executable = .callback c) (past : List Callback.Call)
      (input : String) : LeavesFiles stage given (c past ⟨stage.argv, stage.env, given⟩ input).2
  | ran {p : P} {size : Nat} {task : Task P} {verdict : Verdict} {left : Snapshot}
      (hp : stage.executable = .program p size)
      (hleads : Task.Reaches (.start p ⟨stage.argv, stage.env, given⟩) task)
      (hend : task.act = .finish verdict left) : LeavesFiles stage given left

/-- The snapshot that an event reports as changed. -/
def StageEvent.changed? : StageEvent → Option Snapshot
  | .ended changed | .failed _ changed => changed
  | .data _ | .wantsInput => none

/-- What an event reports as changed is what its stage left of the files of some store. -/
def StageEvent.ReportsFilesOf {P : Type} [Program P] (stage : Stage P) (e : StageEvent) : Prop :=
  ∀ left, e.changed? = some left → ∃ store : FileStore, stage.LeavesFiles store.snapshot left

namespace Host

variable {P : Type} [Program P] {h h' : Host P} {stage : Stage P} {e : StageEvent}
  {events : List StageEvent}

/-- A host at work has brought its stage where it is from the files of some store. -/
def TaskReached (h : Host P) : Prop :=
  ∀ task initial asked, h.phase = .working task initial asked →
    ∃ (store : FileStore) (p : P) (size : Nat), initial = store.snapshot ∧
      h.stage.executable = .program p size ∧ Task.Reaches (.start p (h.invocation initial)) task

theorem TaskReached.congr (ht : h.TaskReached) (hstage : h'.stage = h.stage)
    (hphase : h'.phase = h.phase) : h'.TaskReached := by
  unfold TaskReached invocation
  rw [hstage, hphase]
  exact ht

theorem TaskReached.of_over (hphase : h.phase = .over) : h.TaskReached := by
  intro task initial asked hworking
  rw [hphase] at hworking
  cases hworking

theorem TaskReached.closeInput (ht : h.TaskReached) : h.closeInput.TaskReached := by
  obtain ⟨index, stage, supply, phase, cancelled, launched⟩ := h
  cases supply <;> exact ht

theorem TaskReached.writeInput (ht : h.TaskReached) {data : Bytes}
    (hwrite : h.writeInput data = .ok h') : h'.TaskReached :=
  ht.congr (writeInput_sameIdentity hwrite).1.stage (writeInput_phase hwrite)

theorem changed?_closing (verdict : Verdict) (initial files : Snapshot) :
    (closing verdict initial files).changed? = changed initial files := by
  unfold closing
  split <;> rfl

/-- An end tells only of what the stage has left. -/
theorem closing_reportsFilesOf {verdict : Verdict} {store : FileStore} {left : Snapshot}
    (hleaves : stage.LeavesFiles store.snapshot left) :
    (closing verdict store.snapshot left).ReportsFilesOf stage := by
  intro other hchanged
  rw [changed?_closing] at hchanged
  unfold changed at hchanged
  split at hchanged
  · cases hchanged
  · cases hchanged
    exact ⟨store, hleaves⟩

theorem report_reportsFilesOf (he : e.ReportsFilesOf stage) :
    ∀ e' ∈ h.report e, e'.ReportsFilesOf stage := by
  intro e' he'
  unfold report at he'
  split at he'
  · cases he'
  · rw [List.mem_singleton.mp he']
    exact he

/-- A host whose stage has gone on by one act. -/
theorem TaskReached.goes {task next : Task P} {initial : Snapshot} {asked asked' : Bool}
    (ht : h.TaskReached)
    (hphase : h.phase = .working task initial asked) (hnext : task.StepsTo next)
    (hstage : h'.stage = h.stage) (hphase' : h'.phase = .working next initial asked') :
    h'.TaskReached := by
  obtain ⟨store, p, size, rfl, hp, hleads⟩ := ht task initial asked hphase
  intro task' initial' asked'' hworking
  rw [hphase'] at hworking
  cases hworking
  rw [invocation, hstage]
  exact ⟨store, p, size, rfl, hp, hleads.tail hnext⟩

/-- **An act leads the stage on, and its end tells what the stage leaves.** -/
theorem step_taskReached (ht : h.TaskReached) (hstep : h.step = some (h', events)) :
    h'.TaskReached ∧ ∀ e ∈ events, e.ReportsFilesOf h.stage := by
  cases step_cases hstep with
  | silent hphase hact =>
    exact ⟨ht.goes hphase (.silent hact) rfl rfl, List.forall_mem_nil _⟩
  | wroteNothing hphase hact | cutOff hphase hact =>
    exact ⟨ht.goes hphase (.write hact _) rfl rfl, List.forall_mem_nil _⟩
  | wrote hphase hact =>
    refine ⟨ht.goes hphase (.write hact _) rfl rfl, fun e he left hchanged => ?_⟩
    rw [List.mem_singleton.mp he] at hchanged
    cases hchanged
  | finished hphase hact =>
    obtain ⟨store, p, size, rfl, hp, hleads⟩ := ht _ _ _ hphase
    exact ⟨.of_over rfl, report_reportsFilesOf (closing_reportsFilesOf (.ran hp hleads hact))⟩
  | readGiven hphase hact | readHeld hphase hact | refused hphase hact =>
    exact ⟨ht.goes hphase (.read hact _) rfl rfl, List.forall_mem_nil _⟩
  | parked hphase =>
    refine ⟨?_, fun e he left hchanged => ?_⟩
    · intro task' initial' asked' hworking
      cases hworking
      exact ht _ _ _ hphase
    · split at he
      · cases he
      · exact report_reportsFilesOf (fun left hchanged => by cases hchanged) e he left hchanged

/-! ## Setting going -/

theorem callEvents_reportsFilesOf {store : FileStore} {left : Snapshot}
    (hleaves : stage.LeavesFiles store.snapshot left) (result : Except Fault (Option String)) :
    ∀ e ∈ callEvents result store.snapshot left, e.ReportsFilesOf stage := by
  have hclosing : ∀ verdict, ∀ e ∈ [closing verdict store.snapshot left],
    e.ReportsFilesOf stage := by
    intro verdict e he
    rw [List.mem_singleton.mp he]
    exact closing_reportsFilesOf hleaves
  unfold callEvents
  split
  · refine List.forall_mem_cons.mpr ⟨fun left hchanged => ?_, hclosing _⟩
    cases hchanged
  · exact hclosing _
  · exact hclosing _

theorem startInline_taskReached (past : List Callback.Call) (store : FileStore) (input : Bytes) :
    (h.startInline past store.snapshot input).1.TaskReached ∧
      ∀ e ∈ (h.startInline past store.snapshot input).2, e.ReportsFilesOf h.stage := by
  unfold startInline
  split
  · rename_i c hc
    refine ⟨.of_over rfl, fun e he => ?_⟩
    obtain ⟨told, htold, he⟩ := List.mem_flatMap.mp he
    exact report_reportsFilesOf (callEvents_reportsFilesOf (.called hc _ _) _ told htold) e he
  · rename_i p size hp
    refine ⟨fun task initial asked hworking => ?_, List.forall_mem_nil _⟩
    cases hworking
    exact ⟨store, p, size, rfl, hp, .refl⟩

theorem launch_taskReached {p : P} {size : Nat} (hp : h.stage.executable = .program p size)
    (image : Image) (store : FileStore) : (h.launch image p store.snapshot).1.TaskReached := by
  unfold launch
  split
  · exact .of_over rfl
  · intro task initial asked hworking
    cases hworking
    exact ⟨store, p, size, rfl, hp, .refl⟩

/-- **A host that is set going with the files of a store** has its stage at the beginning, or has
called it and tells what it has left. -/
theorem start_taskReached {past : List Callback.Call} {input : Option Bytes} {why : Option Failure}
    {store : FileStore} (hready : h.phase = .ready store.snapshot)
    (hstart : h.start past input = (h', events, why)) :
    h'.TaskReached ∧ ∀ e ∈ events, e.ReportsFilesOf h.stage := by
  simp only [start, hready] at hstart
  split at hstart
  · rename_i image p size hsupply hp
    have hconcurrent : (h.startConcurrent image p store.snapshot input).1.TaskReached := by
      unfold startConcurrent
      split
      · exact launch_taskReached hp image store
      · split
        · rename_i fed hwrite
          have hfed : fed.stage.executable = .program p size := by
            rw [(writeInput_sameIdentity hwrite).1.stage]
            exact hp
          exact launch_taskReached hfed image store
        · exact .of_over rfl
    cases hstart
    exact ⟨hconcurrent, List.forall_mem_nil _⟩
  · cases hstart
    exact startInline_taskReached past store _

theorem Fresh.phase {index : Nat} {files : Snapshot} {kind : Kind}
    (hfresh : Fresh index stage files kind h) : h.phase = .ready files := by
  cases hfresh <;> rfl

end Host

end Pipework
