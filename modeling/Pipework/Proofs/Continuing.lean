import Pipework.Proofs.Delivering

/-!
# Rehearsals that go on

A rehearsal of a task ends in one way, however many acts it is allowed (`Ends.unique`), and that way is
the same from any place that it comes to (`Reaches.ends_iff`). What was written before has no part
in it and stays behind what is written (`perform_behind`), and neither has what a state holds that
its demands do not depend on (`perform_moved`).

* `Task.moved` — a task with its state put to another.
* `Rehearsal.behind` — a rehearsal that has older writes.
-/

namespace Pipework

variable {P : Type} [Program P] {f : Program.State P → Program.State P} {t t' : Task P}

/-! ## Other states -/

/-- The same task with another state. -/
def Task.moved (f : Program.State P → Program.State P) (t : Task P) : Task P :=
  { t with state := f t.state }

/-- The same act of a task that goes on in other states. -/
def Act.moved (f : Program.State P → Program.State P) : Act P → Act P
  | .silent next => .silent (next.moved f)
  | .read limit answer => .read limit fun got => (answer got).moved f
  | .write data answer => .write data fun got => (answer got).moved f
  | .finish verdict files => .finish verdict files

/-- A state that demands the same, and goes on so, acts the same. -/
theorem Task.act_moved (h : Program.demand (f t.state) = (Program.demand t.state).map f) :
    (t.moved f).act = t.act.moved f := by
  unfold act
  rw [moved, h]
  cases Program.demand t.state with
  | line answer =>
    simp only [Demand.map]
    cases t.lines.poll with
    | starved => exact congrArg (Act.read _) (funext fun got => by cases got <;> rfl)
    | _ => rfl
  | rest answer =>
    refine congrArg (Act.read _) (funext fun got => ?_)
    rcases got with _ | _ | ⟨_, _⟩ <;> rfl
  | _ => rfl

namespace Rehearsal

variable {r r' after : Rehearsal} {result : Verdict × Snapshot × Rehearsal} {fuel fuel' : Nat}

theorem step?_moved (h : (t.moved f).act = t.act.moved f) (hstep : r.step? t = some (r', t')) :
    r.step? (t.moved f) = some (r', t'.moved f) := by
  rw [step?_eq_some] at hstep ⊢
  rw [h]
  generalize t.act = act at hstep
  cases hstep with
  | silent => exact .silent (t'.moved f)
  | read limit answer => exact .read limit fun got => (answer got).moved f
  | write data answer => exact .write data fun got => (answer got).moved f

/-- **States that always demand the same, and go on so, make no difference.** -/
theorem perform_moved (hf : ∀ s, Program.demand (f s) = (Program.demand s).map f) (r : Rehearsal)
    (fuel : Nat) (t : Task P) : r.perform fuel (t.moved f) = r.perform fuel t := by
  induction fuel generalizing r t with
  | zero => rfl
  | succ fuel ih =>
    have hact := Task.act_moved (hf t.state)
    cases hstep : r.step? t with
    | some stood =>
      rw [perform_step hstep, perform_step (step?_moved hact hstep), ih]
    | none =>
      obtain ⟨verdict, files, hends, hperform⟩ := perform_finish hstep
      rw [hperform, perform, hact, hends]
      rfl

/-- **Only the demand of a state decides how it goes.** A task keeps its state while it gathers input,
so the two stay apart until the demand is met. -/
theorem perform_demand {s s' : Program.State P} (h : Program.demand s = Program.demand s')
    (r : Rehearsal) (fuel : Nat) (lines : LineBuffer) (gathered : Bytes) :
    r.perform fuel ⟨s, lines, gathered⟩ = r.perform fuel ⟨s', lines, gathered⟩ := by
  induction fuel generalizing r lines gathered with
  | zero => rfl
  | succ fuel ih =>
    rw [perform, perform, Task.act, Task.act, h]
    cases Program.demand s' with
    | line answer =>
      dsimp only
      cases lines.poll with
      | starved =>
        dsimp only
        rcases r.read LineBuffer.pieceLimit with ⟨_ | data, after⟩
        · rfl
        · exact ih after (lines.feed data) gathered
      | _ => rfl
    | rest answer =>
      dsimp only
      rcases r.read LineBuffer.pieceLimit with ⟨_ | _ | ⟨b, data⟩, after⟩
      · rfl
      · rfl
      · exact ih after lines (gathered ++ b :: data)
    | _ => rfl

/-! ## Ends -/

/-- How a rehearsal of a task ends. -/
def Ends (r : Rehearsal) (t : Task P) (result : Verdict × Snapshot × Rehearsal) : Prop :=
  ∃ fuel, r.perform fuel t = some result

theorem perform_more (h : r.perform fuel t = some result) (hfuel : fuel ≤ fuel') :
    r.perform fuel' t = some result := by
  induction fuel generalizing r t fuel' with
  | zero => cases h
  | succ fuel ih =>
    obtain ⟨more, rfl⟩ : ∃ more, fuel' = more + 1 := ⟨fuel' - 1, by omega⟩
    cases hstep : r.step? t with
    | some stood =>
      rw [perform_step hstep] at h ⊢
      exact ih h (by omega)
    | none =>
      obtain ⟨verdict, files, -, hends⟩ := perform_finish hstep
      rw [hends] at h ⊢
      exact h

theorem Ends.unique {result' : Verdict × Snapshot × Rehearsal} (h : Ends r t result)
    (h' : Ends r t result') : result = result' := by
  obtain ⟨fuel, h⟩ := h
  obtain ⟨fuel', h'⟩ := h'
  have hmore := perform_more h (Nat.le_max_left fuel fuel')
  rw [perform_more h' (Nat.le_max_right fuel fuel')] at hmore
  exact (Option.some.inj hmore).symm

theorem ends_step (hstep : r.step? t = some (r', t')) : Ends r t result ↔ Ends r' t' result := by
  refine ⟨fun ⟨fuel, h⟩ => ?_, fun ⟨fuel, h⟩ => ⟨fuel + 1, (perform_step hstep fuel).trans h⟩⟩
  cases fuel with
  | zero => cases h
  | succ fuel => exact ⟨fuel, (perform_step hstep fuel).symm.trans h⟩

/-- **A rehearsal ends as it does from any place that it comes to.** -/
theorem Reaches.ends_iff (h : Reaches r t r' t') : Ends r t result ↔ Ends r' t' result :=
  h.invariant (Q := fun r' t' => Ends r t result ↔ Ends r' t' result) Iff.rfl
    fun hsame hstep => hsame.trans (ends_step hstep)

theorem ends_finish {verdict : Verdict} {files : Snapshot} (h : t.act = .finish verdict files)
    (r : Rehearsal) : Ends r t (verdict, files, r) :=
  ⟨1, by rw [perform, h]⟩

/-! ## Older writes -/

/-- A rehearsal with writes that are older than its own. -/
def behind (r : Rehearsal) (older : List Bytes) : Rehearsal :=
  { r with written := r.written ++ older }

theorem read_behind (r : Rehearsal) (older : List Bytes) (limit : Nat) :
    (r.behind older).read limit = ((r.read limit).1, (r.read limit).2.behind older) := by
  obtain ⟨pieces, consumed, hafter⟩ := r.read_after limit
  have hread := read_written r r.writeCalls (r.written ++ older) limit
  rw [hafter] at hread ⊢
  exact hread

theorem write_behind (r : Rehearsal) (older : List Bytes) (data : Bytes) :
    (r.behind older).write data = ((r.write data).1, (r.write data).2.behind older) := by
  by_cases hfails : r.failingWrite = some (r.writeCalls + 1)
  · simp only [write, behind, hfails, if_true]
  · simp only [write, behind, hfails, if_false, List.cons_append]

theorem step?_behind (older : List Bytes) (hstep : r.step? t = some (r', t')) :
    (r.behind older).step? t = some (r'.behind older, t') := by
  rw [step?_eq_some] at hstep ⊢
  generalize t.act = act at hstep
  cases hstep with
  | silent => exact .silent t'
  | read limit answer =>
    have htakes := StepCases.read (r := r.behind older) limit answer
    rwa [read_behind] at htakes
  | write data answer =>
    have htakes := StepCases.write (r := r.behind older) data answer
    rwa [write_behind] at htakes

/-- **Older writes have no part in a rehearsal**, and stay behind those that it makes. -/
theorem perform_behind (r : Rehearsal) (older : List Bytes) (fuel : Nat) (t : Task P) :
    (r.behind older).perform fuel t =
      (r.perform fuel t).map fun (verdict, files, after) => (verdict, files, after.behind older) := by
  induction fuel generalizing r t with
  | zero => rfl
  | succ fuel ih =>
    cases hstep : r.step? t with
    | some stood =>
      rw [perform_step hstep, perform_step (step?_behind older hstep)]
      exact ih stood.1 stood.2
    | none =>
      obtain ⟨verdict, files, hact, hends⟩ := perform_finish hstep
      rw [hends, perform, hact]
      rfl

end Rehearsal

end Pipework
