import Pipework.Proofs.Leaving
import Pipework.Proofs.Texts
import Pipework.Script.Run

/-!
# Scripts keep snapshots of texts

A script touches files in three ways: it writes one, empties those that a filter collects lines in,
and adds a line to one of those. Each leaves an object of texts one, and wherever the script stops,
its files are what the last of them has left (`State.texts`). So all that a script can leave of an
object of texts is one (`leaves_texts`).
-/

namespace Pipework.Script

open Snapshot

/-! ## Filters -/

/-- The files behind a line that has gone through a chain, or as far as it came. -/
def LineResult.files : LineResult → Snapshot
  | .through _ _ _ files | .dropped _ files | .halted _ files | .broken _ files => files

theorem pass_texts (cells : List Cell) : ∀ (passed : List Cell) (last : Bool) (line : String)
    {files : Snapshot}, files.HoldsTexts →
      (pass passed last line files cells).files.HoldsTexts := by
  induction cells with
  | nil => exact fun _ _ _ _ h => h
  | cons cell rest ih =>
    intro passed last line files h
    unfold pass
    simp only
    split
    · exact ih _ _ _ h
    · split
      · exact h
      · exact ih _ _ _ h
    · split
      · exact h
      · exact ih _ _ _ h
    · exact ih _ _ _ h
    · exact ih _ _ _ h
    · rename_i path _
      obtain ⟨after, hwrite, hafter⟩ := h.write path
        ((Snapshot.read? files path).getD "" ++ line ++ "\n")
      rw [hwrite]
      exact ih _ _ _ hafter

theorem emptyTees_texts (cells : List Cell) : ∀ {files after : Snapshot}, files.HoldsTexts →
    emptyTees files cells = .ok after → after.HoldsTexts := by
  induction cells with
  | nil =>
    intro files after h hempty
    cases hempty
    exact h
  | cons cell rest ih =>
    intro files after h hempty
    unfold emptyTees at hempty
    split at hempty
    · rename_i path _
      obtain ⟨written, hwrite, hwritten⟩ := h.write path ""
      rw [hwrite] at hempty
      exact ih hwritten hempty
    · exact ih h hempty

theorem Filter.start_texts {inv : Invocation} {chain : List Op} {count : Bool}
    {files after : Snapshot} {filter : Filter} (h : files.HoldsTexts)
    (hstart : Filter.start inv chain count files = .ok (filter, after)) : after.HoldsTexts := by
  unfold Filter.start at hstart
  split at hstart
  · cases hstart
  · simp only at hstart
    split at hstart
    · cases hstart
    · rename_i hempty
      cases hstart
      exact emptyTees_texts _ h hempty

/-! ## Stands -/

/-- Wherever a script stands it has an object of texts. -/
def State.Texts : State → Prop
  | .before _ files | .filtering _ _ files | .ended _ files => files.HoldsTexts
  | .writing _ files next => files.HoldsTexts ∧ next.Texts

theorem Filter.close_texts (f : Filter) (rest : List Step) {files : Snapshot}
    (h : files.HoldsTexts) : (f.close rest files).Texts := by
  unfold Filter.close
  split
  · exact ⟨h, h⟩
  · exact h

theorem Filter.gotLine_texts (f : Filter) (rest : List Step) {files : Snapshot}
    (h : files.HoldsTexts) (answer : Except Fault (Option String)) :
    (f.gotLine rest files answer).Texts := by
  unfold Filter.gotLine
  split
  · exact h
  · exact f.close_texts rest h
  · rename_i line
    have hpassed := pass_texts f.cells [] false line h
    split <;> rename_i heq <;> rw [heq] at hpassed
    · exact hpassed
    · exact hpassed
    · exact Filter.close_texts _ rest hpassed
    · rename_i last cells after
      have hnext : (if last then
          Filter.close { f with cells := cells, passed := f.passed + 1 } rest after
          else .filtering { f with cells := cells, passed := f.passed + 1 } rest after).Texts := by
        split
        · exact Filter.close_texts _ rest hpassed
        · exact hpassed
      simp only
      split
      · exact hnext
      · exact ⟨hpassed, hnext⟩

theorem gotWrite_texts {files : Snapshot} {next : State} (h : files.HoldsTexts) (hnext : next.Texts)
    (answer : Except Fault Unit) : (gotWrite files next answer).Texts := by
  cases answer with
  | ok _ => exact hnext
  | error why => exact h

/-- **From an object of texts the steps of a script come to one**, whichever of them is the last. -/
theorem begin_texts (inv : Invocation) (steps : List Step) : ∀ {files : Snapshot},
    files.HoldsTexts → (begin inv steps files).Preserves State.Texts HoldsTexts := by
  induction steps with
  | nil => exact fun h => h
  | cons step rest ih =>
    intro files h
    cases step with
    | emit text => exact gotWrite_texts h h
    | read path =>
      unfold begin
      simp only
      split
      · exact gotWrite_texts h h
      · exact h
    | write path text =>
      obtain ⟨after, hwrite, hafter⟩ := h.write (expand inv path) (expand inv text ++ "\n")
      unfold begin
      rw [hwrite]
      exact ih hafter
    | fail message => exact h
    | filter chain count =>
      unfold begin
      split
      · rename_i hstart
        exact Filter.gotLine_texts _ rest (Filter.start_texts h hstart)
      · exact h

theorem State.texts (inv : Invocation) {stand : State} (h : stand.Texts) :
    (stand.demand inv).Preserves State.Texts HoldsTexts := by
  cases stand with
  | before steps files => exact begin_texts inv steps h
  | filtering filter rest files => exact filter.gotLine_texts rest h
  | writing data files next => exact gotWrite_texts h.1 h.2
  | ended verdict files => exact h

/-- **A script leaves an object of texts of one**, whatever it reads and wherever it stops. -/
theorem leaves_texts {script : Script} {inv : Invocation} {task : Task Script} {verdict : Verdict}
    {left : Snapshot} (hleads : Task.Reaches (.start script inv) task)
    (hend : task.act = .finish verdict left) (h : inv.files.HoldsTexts) : left.HoldsTexts := by
  refine Task.end_of_preserves (Q := fun run : Run => run.state.Texts) ?_ hleads h hend
  intro run hrun
  exact Demand.preserves_map.mpr (State.texts run.inv hrun)

end Pipework.Script
