import Pipework.Proofs.Run.Status

/-!
# What the spawning of stages leaves alone

Much of what a run does is moving its stages about: it sets them going, feeds them, takes in what
they report and dismisses them. A view of a run that sees none of this (`FrameView`) is the same
before and after each of the functions that do it. So a part of the run that only a few functions
touch needs lemmas about those only.
-/

namespace Pipework

namespace Run

variable {P F : Type} [Program P] [Filesystem F]

/-- A view that does not see where the stages are, what passes between them, and what is told
meanwhile; `picked` are the effects that it does see. -/
structure FrameView {α β : Type} (picked : Effect → Option β) (view : Run P F → α) : Prop where
  print : ∀ text, picked (.print text) = none
  status : ∀ text, picked (.status text) = none
  clearStatus : picked .clearStatus = none
  exported : ∀ files, picked (.exported files) = none
  record : ∀ (r : Run P F) (effects : List Effect),
    effects.filterMap picked = [] → view (r.record effects) = view r
  started : ∀ (r : Run P F) index input, view (r.note (.started index input)) = view r
  written : ∀ (r : Run P F) index data, view (r.note (.written (index + 1) data)) = view r
  refused : ∀ (r : Run P F) index data why,
    view (r.note (.refused (index + 1) data why)) = view r
  complete : ∀ r : Run P F, view r.complete = view r
  moved : ∀ (r : Run P F) resident dismissed backlog nextSpawn active mailbox outcome spawned
    maxResident factory calls, view { r with
      resident := resident, dismissed := dismissed, backlog := backlog, nextSpawn := nextSpawn
      active := active, mailbox := mailbox, outcome := outcome, spawned := spawned
      maxResident := maxResident
      session := { r.session with factory := factory, calls := calls } } = view r

namespace FrameView

variable {α β : Type} {picked : Effect → Option β} {view : Run P F → α} (h : FrameView picked view)
  (r : Run P F)

include h

theorem prints (c : Console) (text : String) : view (r.record (c.print text)) = view r := by
  refine h.record r _ ?_
  unfold Console.print
  split
  · exact List.filterMap_cons_none (h.print text)
  · rfl

theorem kill : view r.kill = view r := by
  unfold Run.kill
  split
  · exact (h.complete _).trans (h.moved r ..)
  · rfl

theorem succeed : view r.succeed = view r := (h.complete _).trans (h.moved r ..)

/-- A failure of a stage that has left nothing. -/
theorem spawnFails (ctx : Setting P) (command : String) (why : Failure) :
    view (failStage ctx command why none r) = view r := by
  have hprint := h.prints r ctx.console (why.notice command)
  unfold failStage
  split
  · refine (h.kill _).trans ?_
    cases ctx.mergeOnError <;> exact (h.moved (r.record _) ..).trans hprint
  · rfl

theorem takeIn (host : Host P) (events : List StageEvent) :
    view (r.takeIn host events) = view r := h.moved r ..

theorem settle (ctx : Setting P) (host : Host P) : view (Run.settle ctx host r) = view r := by
  have hstarted : ∀ backlog input, view ({ r with
      backlog := backlog
      spawned := r.spawned + 1
      session := r.session.call (host.call? input) }.note (.started host.index input)) = view r :=
    fun backlog input => (h.started _ _ _).trans (h.moved r ..)
  unfold Run.settle
  simp only
  split
  · rw [h.spawnFails]
    exact (h.moved (Run.note _ _) ..).trans (hstarted _ _)
  · rw [h.takeIn]
    exact hstarted _ _

theorem spawnStage (ctx : Setting P) (index : Nat) :
    view (Run.spawnStage ctx index r) = view r := by
  unfold Run.spawnStage
  split
  · rfl
  · rename_i stage hstage
    simp only
    generalize hspawn : r.session.factory.spawn ctx.console index stage _ = made
    obtain ⟨effects, factory, host⟩ := made
    have hequip : view (r.equip index (.exported r.session.snapshot :: effects) factory) =
        view r := by
      refine (h.moved (r.record _) ..).trans (h.record r _ ?_)
      rw [List.filterMap_cons_none (h.exported _)]
      exact (Factory.spawn_spec picked h.status h.clearStatus hspawn).1
    cases host with
    | ok host => exact (h.settle _ ctx host).trans hequip
    | error why => exact (h.spawnFails _ ctx _ why).trans hequip

theorem spawnWindow (ctx : Setting P) (fuel index : Nat) :
    view (Run.spawnWindow ctx fuel index r) = view r := by
  induction fuel generalizing index r with
  | zero => rfl
  | succ fuel ih =>
    unfold Run.spawnWindow
    simp only
    split
    · split
      · rw [ih, h.spawnStage]
      · exact h.spawnStage r ctx index
    · rfl

theorem refill (ctx : Setting P) : view (Run.refill ctx r) = view r := by
  unfold Run.refill
  simp only
  split
  · exact h.spawnWindow r ctx _ _
  · rfl

theorem onData (ctx : Setting P) (index : Nat) (data : Bytes) :
    view (Run.onData ctx index data r) = view r := by
  unfold Run.onData
  split
  · exact h.prints r _ _
  · split
    · rfl
    · split
      · split
        · exact (h.written _ _ _).trans (h.moved r ..)
        · exact h.refused r _ _ _
      · exact h.moved r ..

theorem stepWork (index : Nat) : view (r.stepWork index) = view r := by
  unfold Run.stepWork
  split
  · rfl
  · split
    · rfl
    · exact h.moved r ..

end FrameView

end Run

end Pipework
