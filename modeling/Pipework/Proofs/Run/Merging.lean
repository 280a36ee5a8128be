import Pipework.Proofs.Run.Ledger
import Pipework.Proofs.Run.Relay
import Pipework.Proofs.Script.Texts

/-!
# Merging what stages leave

What the events of a run tell of changed snapshots is what their stages have left of the files of a
store (`Pipeline.ReportsInv`). Built-ins and scripts leave objects of texts of them, so a run of
these never has a snapshot refused, and its report counts every stage that ended or failed with a
changed one (`reference_stages_merge`).
-/

namespace Pipework

namespace Run

variable {P : Type} [Program P] {ctx : Setting P}

/-- An event of one of the stages that tells of nothing but what that stage has left. -/
def ReportedByStage (stages : List (Stage P)) (c : Nat × StageEvent) : Prop :=
  ∃ stage, stages[c.1]? = some stage ∧ c.2.ReportsFilesOf stage

namespace Pipeline

variable {s t : Pipeline P FileStore} {h : Host P}

/-- What is told of a stage, or is still to be told, is what the stage has left. -/
structure ReportsInv (s : Pipeline P FileStore) : Prop where
  hosts : ∀ h ∈ s.resident, h.TaskReached
  queued : ∀ c ∈ s.queue, ReportedByStage s.stages c

theorem ReportsInv.popped (ht : s.ReportsInv) {first : Nat × StageEvent}
    {rest : List (Nat × StageEvent)}
    (hqueue : s.queue = first :: rest) : ∀ c ∈ rest, ReportedByStage s.stages c := by
  intro c hc
  refine ht.queued c ?_
  rw [hqueue]
  exact List.mem_cons_of_mem _ hc

theorem ReportsInv.setHost (ht : s.ReportsInv) (hh : h.TaskReached) :
    ∀ other ∈ (s.setHost h).resident, other.TaskReached := by
  intro other hother
  obtain ⟨before, hbefore, rfl⟩ := List.mem_map.mp hother
  split
  · exact hh
  · exact ht.hosts before hbefore

theorem ReportsInv.reader (ht : s.ReportsInv) {index : Nat} (hreader : s.reader? index = some h) :
    h.TaskReached := ht.hosts h (mem_of_host? (reader?_eq_some.mp hreader).1)

theorem ReportsInv.closeReader (ht : s.ReportsInv) (index : Nat) :
    ∀ other ∈ (s.closeReader index).resident, other.TaskReached := by
  unfold Pipeline.closeReader
  split
  · rename_i reader hreader
    exact ht.setHost (ht.reader hreader).closeInput
  · exact ht.hosts

/-- A stage tells what it has left. -/
theorem ReportsInv.reported (ht : s.ReportsInv) {index : Nat} {stage : Stage P}
    {events : List StageEvent}
    (hstage : s.stages[index]? = some stage) (hevents : ∀ e ∈ events, e.ReportsFilesOf stage) :
    ∀ c ∈ s.queue ++ events.map (index, ·), ReportedByStage s.stages c := by
  intro c hc
  rcases List.mem_append.mp hc with hold | hnew
  · exact ht.queued c hold
  · obtain ⟨e, he, rfl⟩ := List.mem_map.mp hnew
    exact ⟨stage, hstage, hevents e he⟩

end Pipeline

/-- **Every move leaves traced what stages tell.** -/
theorem Pipeline.ReportsInv.move {c : Console} {s t : Pipeline P FileStore} (hmove : Move c s t)
    (hr : s.RelayInv) (ht : s.ReportsInv) : t.ReportsInv := by
  cases hmove with
  | @worked h h' events hfound hstep =>
    obtain ⟨hgone, hevents⟩ := Host.step_taskReached (ht.hosts h (mem_of_host? hfound)) hstep
    exact ⟨ht.setHost hgone, ht.reported (hr.stage_of_host? hfound) hevents⟩
  | dropped hqueue hgone => exact ⟨ht.hosts, ht.popped hqueue⟩
  | asked hqueue hfound => exact ⟨ht.hosts, ht.popped hqueue⟩
  | shown hqueue hfound hlast => exact ⟨ht.hosts, ht.popped hqueue⟩
  | discarded hqueue hfound hinner hover => exact ⟨ht.hosts, ht.popped hqueue⟩
  | fed hqueue hfound hinner hopen hreader hwrite =>
    exact ⟨ht.setHost ((ht.reader hreader).writeInput hwrite), ht.popped hqueue⟩
  | refused hqueue hfound hinner hopen hreader hwrite => exact ⟨ht.hosts, ht.popped hqueue⟩
  | stored hqueue hfound hinner hopen hreader => exact ⟨ht.hosts, ht.popped hqueue⟩
  | @retired index h changed rest hqueue hfound hinner =>
    have hhandled : (s.handle index (.ended changed) rest).ReportsInv :=
      ⟨ht.hosts, ht.popped hqueue⟩
    refine ⟨fun other hother => ?_, ht.popped hqueue⟩
    exact hhandled.closeReader (index + 1) other (List.mem_filter.mp hother).1
  | @spawned stage fresh h events hstage hroom hready hfresh hstart =>
    obtain ⟨hindex, -⟩ := Pipeline.spawned_spec hstage hfresh hstart
    obtain ⟨htraced, hevents⟩ := Host.start_taskReached hfresh.phase hstart
    rw [hfresh.stage] at hevents
    refine ⟨fun other hother => ?_, ?_⟩
    · rcases List.mem_append.mp hother with hold | hnew
      · exact ht.hosts other hold
      · rw [List.mem_singleton.mp hnew]
        split
        · exact htraced.closeInput
        · exact htraced
    · exact ht.reported (hindex ▸ hstage) hevents
  | closed hreader => exact ⟨ht.setHost (ht.reader hreader).closeInput, ht.queued⟩
  | typed htyped hreader hwrite =>
    exact ⟨ht.setHost ((ht.reader hreader).writeInput hwrite), ht.queued⟩
  | rejected htyped hreader hwrite => exact ⟨ht.hosts, ht.queued⟩

/-- **Whatever waits to be handled in an active run is told of what its stage has left.** -/
theorem reached_reportsInv {line : String} {s : Session FileStore} {killed : Bool}
    {choices : List Choice} (hactive : (reached ctx line s killed choices).active = true) :
    (reached ctx line s killed choices).pipeline.ReportsInv := by
  obtain ⟨_, effects, stages, -, -, hmoves, -⟩ := reached_spec hactive
  have hopening : (Pipeline.opening stages (s.record effects) : Pipeline P FileStore).ReportsInv :=
    ⟨List.forall_mem_nil _, List.forall_mem_nil _⟩
  exact (Moves.invariant
    (Q := fun t => t.OrderInv ∧ t.RelayInv ∧ t.ReportsInv)
    (fun hm h => ⟨h.1.move hm, h.2.1.move hm h.1, h.2.2.move hm h.2.1⟩) hmoves
    ⟨.opening stages (s.record effects), .opening stages (s.record effects), hopening⟩).2.2

theorem reached_reportedByStage (ctx : Setting P) (line : String) (s : Session FileStore)
    (killed : Bool) (choices : List Choice) :
    ∀ c ∈ (reached ctx line s killed choices).journal.closings,
      ReportedByStage (reached ctx line s killed choices).stages c := by
  rw [reached_stages]
  refine reached_closings (fun before hactive c hc => ?_) choices
  rw [← reached_stages ctx line s killed before]
  exact (reached_reportsInv hactive).queued c hc

end Run

/-! ## Built-ins and scripts -/

/-- A built-in command or a script, with any words and any environment. -/
def Stage.IsBuiltinOrScript (stage : Stage Script) : Prop :=
  match stage.executable with
  | .callback c => ∃ b : Builtin, c = b.callback
  | .program .. => True

/-- **Built-ins and scripts leave an object of texts of one.** -/
theorem Stage.IsBuiltinOrScript.leavesFiles {stage : Stage Script}
    (hstage : stage.IsBuiltinOrScript)
    {given left : Snapshot} (hgiven : given.HoldsTexts) (hleaves : stage.LeavesFiles given left) :
    left.HoldsTexts := by
  cases hleaves with
  | called hc past input =>
    unfold Stage.IsBuiltinOrScript at hstage
    rw [hc] at hstage
    obtain ⟨b, rfl⟩ := hstage
    exact b.run_texts _ input hgiven
  | ran hp hleads hend => exact Script.leaves_texts hleads hend hgiven

namespace Run

/-- Every merge that was tried came about, and the report counts the stages that ended or failed
with a changed snapshot. A stage has ended or failed when the run has handled the event that tells
so; what comes behind the end of the run is not heard. -/
structure MergeSpec (ctx : Setting Script) (base : Session FileStore)
    (r : Run Script FileStore) : Prop where
  /-- The store was given what those stages have left, one after the other, and refused nothing. -/
  imports : r.session.imported =
    base.imported ++ (changesOf ctx.mergeOnError r.journal.closings).map fun c => (c.2, none)
  merges : r.merges = (changesOf ctx.mergeOnError r.journal.closings).length
  report : ∀ rep, r.report = some rep →
    rep.merges = (changesOf ctx.mergeOnError r.journal.closings).length
  /-- No stage counts twice. -/
  once : (r.journal.closings.map Prod.fst).Nodup
  /-- The stages that have ended are those that the run has down as finished. -/
  finished : r.finished.reverse = (r.journal.closings.filter fun c => c.2.isEnd).map Prod.fst

theorem reached_mergeSpec (ctx : Setting Script) (line : String) (s : Session FileStore)
    (killed : Bool) (choices : List Choice)
    (hstages : ∀ stage ∈ (reached ctx line s killed choices).stages, stage.IsBuiltinOrScript) :
    MergeSpec ctx s (reached ctx line s killed choices) := by
  obtain ⟨⟨himports, hmerges, -, hreported, hfinished⟩, honce, -⟩ :=
    reached_ledgerInv ctx line s killed choices
  have hofStage := reached_reportedByStage ctx line s killed choices
  generalize reached ctx line s killed choices = r at *
  have htaken : ∀ left ∈ changedBy ctx.mergeOnError r.journal.closings, ∀ files : FileStore,
      Filesystem.refusal? files left = none := by
    intro left hleft files
    obtain ⟨c, hc, rfl⟩ := List.mem_map.mp hleft
    obtain ⟨⟨index, e⟩, hclosing, hchange⟩ := List.mem_filterMap.mp hc
    obtain ⟨left, hmerged, rfl⟩ := Option.map_eq_some_iff.mp hchange
    obtain ⟨stage, hstage, hof⟩ := hofStage _ hclosing
    obtain ⟨store, hleaves⟩ := hof left (StageEvent.changed?_of_merged? hmerged)
    have htexts :=
      (hstages stage (List.mem_of_getElem? hstage)).leavesFiles store.snapshot_texts hleaves
    obtain ⟨files, hfiles⟩ := FileStore.ofSnapshot_of_texts htexts
    simp only [Filesystem.refusal?, FileStore.accept_eq, hfiles]
  have hoffers : Filesystem.offers s.files (changedBy ctx.mergeOnError r.journal.closings) =
      (changesOf ctx.mergeOnError r.journal.closings).map fun c => (c.2, none) := by
    rw [Filesystem.offers_of_taken htaken, changedBy, List.map_map]
    rfl
  have hcount : r.merges = (changesOf ctx.mergeOnError r.journal.closings).length := by
    refine hmerges.trans ?_
    simp [ledger, hoffers]
  refine ⟨himports.trans ?_, hcount, fun rep hrep => ?_, honce, hfinished⟩
  · exact congrArg (s.imported ++ ·) hoffers
  · simp only [ledger, hrep, Option.map_some, Option.getD_some] at hreported
    exact hreported.trans hcount

/-- **Built-ins and scripts never have a merge refused.** What a store writes out is an object of
texts, and a store takes every such object. A built-in leaves one of one whatever it is called with,
and so does a script whatever it reads, whether or not its reads and writes come about, and wherever
it stops. So in every run of such stages, in any order of choices, every merge that is tried comes
about, and the report counts the stages that ended with a changed snapshot, with those that failed
where theirs is merged too. -/
theorem reference_stages_merge :
    (∀ store : FileStore, store.snapshot.HoldsTexts) ∧
    (∀ s : Snapshot, s.HoldsTexts → ∃ store, FileStore.ofSnapshot s = .ok store) ∧
    (∀ (b : Builtin) (inv : Invocation) (input : String), inv.files.HoldsTexts →
      (b.run inv input).2.HoldsTexts) ∧
    (∀ (script : Script) (inv : Invocation) (task : Task Script) (verdict : Verdict)
      (left : Snapshot), inv.files.HoldsTexts → Task.Reaches (.start script inv) task →
        task.act = .finish verdict left → left.HoldsTexts) ∧
    ∀ (ctx : Setting Script) (line : String) (s : Session FileStore) (killed : Bool)
      (choices : List Choice),
      (∀ stage ∈ (reached ctx line s killed choices).stages, stage.IsBuiltinOrScript) →
        MergeSpec ctx s (reached ctx line s killed choices) :=
  ⟨FileStore.snapshot_texts, fun _ => FileStore.ofSnapshot_of_texts, Builtin.run_texts,
    fun _ _ _ _ _ hgiven hleads hend => Script.leaves_texts hleads hend hgiven,
    reached_mergeSpec⟩

/-- A script that writes a file, a command that writes another, and one that removes it and then
fails. -/
def halfRemoved : List (Stage Script) :=
  [⟨["p"], [], .program ⟨"p", [.write "a" "1", .emit "x"]⟩ 0⟩,
    ⟨["tee", "b"], [], .callback Builtin.tee.callback⟩,
    ⟨["rm", "b", "c"], [], .callback Builtin.rm.callback⟩]

def halfRemovedRun : Run Script FileStore :=
  reached (.fixed halfRemoved .none true) "" .sequential false
    ([.work 0, .work 0] ++ List.replicate 5 .event)

set_option maxRecDepth 4000 in
theorem reference_stages_merge_halfRemoved :
    (∃ store, FileStore.ofSnapshot (.object [("a", .text "1")]) = .ok store) ∧
      (Builtin.rm.run ⟨["rm", "a", "b"], [], .object [("a", .text "1")]⟩ "").2 = .object [] ∧
      Snapshot.HoldsTexts (.object []) ∧
      Snapshot.HoldsTexts (.object [("a", .text "1\n")]) ∧
      MergeSpec (.fixed halfRemoved .none true) .sequential halfRemovedRun ∧
      halfRemovedRun.outcome.map Outcome.exitCode = some 1 ∧ halfRemovedRun.merges = 3 ∧
      halfRemovedRun.session.files.files = [("a", "1\n")] := by
  have hgiven : Snapshot.HoldsTexts (.object [("a", .text "1")]) :=
    List.forall_mem_singleton.mpr ⟨"1", rfl⟩
  obtain ⟨-, hstore, hbuiltin, hscript, hrun⟩ := reference_stages_merge
  have hremoved := hbuiltin .rm ⟨["rm", "a", "b"], [], .object [("a", .text "1")]⟩ "" hgiven
  -- the script has written its file when its first write to the output fails
  have hwritten := hscript ⟨"p", [.write "a" "1", .emit "x"]⟩ ⟨["p"], [], .object []⟩ _ _
    (.object [("a", .text "1\n")]) (List.forall_mem_nil _)
    (.single (.write rfl (.error Host.cannotWrite))) rfl
  have hmerged := hrun (.fixed halfRemoved .none true) "" .sequential false
    ([.work 0, .work 0] ++ List.replicate 5 .event) (by
      intro stage hstage
      rw [reached_stages] at hstage
      have hstages : stage ∈ halfRemoved := hstage
      simp only [halfRemoved, List.mem_cons, List.not_mem_nil, or_false] at hstages
      rcases hstages with rfl | rfl | rfl
      · trivial
      · exact ⟨.tee, rfl⟩
      · exact ⟨.rm, rfl⟩)
  exact ⟨hstore _ hgiven, rfl, hremoved, hwritten, hmerged, rfl, rfl, rfl⟩

end Run

end Pipework
