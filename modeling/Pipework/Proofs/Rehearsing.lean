import Mathlib.Logic.Relation
import Pipework.Script.Rehearse

/-!
# Rehearsals act by act

A rehearsal in which a call fails goes as one in which none does, up to that call; from there on it
is a rehearsal of the task that was told of the fault (`perform_failing`).

* `Rehearsal.step?` — one act, which comes to `Rehearsal.StepCases`; `Rehearsal.Reaches` — what a
  rehearsal comes to by acts.
* `Rehearsal.AtCall` — where a rehearsal stands when it comes to a call, counted by kind.
-/

namespace Pipework

namespace Rehearsal

/-- A call of a task on its surroundings, which they may fail. -/
inductive Call where
  | read
  | write
  deriving DecidableEq, Repr

def Call.fault : Call → Fault
  | .read => readFault
  | .write => writeFault

end Rehearsal

/-- Where a task that is about to make such a call goes on if the call fails. -/
def Act.failed? {P : Type} [Program P] : Act P → Rehearsal.Call → Option (Task P)
  | .read _ answer, .read => some (answer (.error Rehearsal.Call.read.fault))
  | .write _ answer, .write => some (answer (.error Rehearsal.Call.write.fault))
  | _, _ => none

namespace Rehearsal

def calls (r : Rehearsal) : Call → Nat
  | .read => r.reads
  | .write => r.writeCalls

/-- One more call was made. -/
def counting (r : Rehearsal) : Call → Rehearsal
  | .read => { r with reads := r.reads + 1 }
  | .write => { r with writeCalls := r.writeCalls + 1 }

def failAt (r : Rehearsal) (c : Call) (k : Nat) : Rehearsal :=
  match c with
  | .read => { r with failingRead := some k }
  | .write => { r with failingWrite := some k }

/-- No call is told to fail, and none has. -/
structure NoFailureSet (r : Rehearsal) : Prop where
  read : r.failingRead = none
  write : r.failingWrite = none
  written : r.written.length = r.writeCalls

theorem NoFailureSet.ofPieces (pieces : List Bytes) :
    (ofPieces pieces none none).NoFailureSet := ⟨rfl, rfl, rfl⟩

variable {P : Type} [Program P] {r r' after : Rehearsal} {t t' : Task P} {c : Call} {k : Nat}

/-! ## One act -/

/-- One act of a task that does not end. -/
def step? (r : Rehearsal) (t : Task P) : Option (Rehearsal × Task P) :=
  match t.act with
  | .silent next => some (r, next)
  | .read limit answer => some ((r.read limit).2, answer (r.read limit).1)
  | .write data answer => some ((r.write data).2, answer (r.write data).1)
  | .finish .. => none

/-- What a rehearsal comes to by an act. -/
inductive StepCases (r : Rehearsal) : Act P → Rehearsal → Task P → Prop
  | silent (next : Task P) : StepCases r (.silent next) r next
  | read (limit : Nat) (answer : Except Fault Bytes → Task P) :
      StepCases r (.read limit answer) (r.read limit).2 (answer (r.read limit).1)
  | write (data : Bytes) (answer : Except Fault Unit → Task P) :
      StepCases r (.write data answer) (r.write data).2 (answer (r.write data).1)

theorem step?_eq_some : r.step? t = some (r', t') ↔ r.StepCases t.act r' t' := by
  unfold step?
  constructor
  · intro h
    cases hact : t.act <;> rw [hact] at h <;> cases h <;> constructor
  · intro h
    generalize t.act = act at h
    cases h <;> rfl

theorem perform_step (h : r.step? t = some (r', t')) (fuel : Nat) :
    r.perform (fuel + 1) t = r'.perform fuel t' := by
  unfold step? at h
  rw [perform]
  cases hact : t.act with
  | finish verdict files => rw [hact] at h; cases h
  | _ => rw [hact] at h; cases h; rfl

theorem perform_finish (h : r.step? t = none) : ∃ verdict files,
    t.act = .finish verdict files ∧ ∀ fuel, r.perform (fuel + 1) t = some (verdict, files, r) := by
  unfold step? at h
  cases hact : t.act with
  | finish verdict files => exact ⟨verdict, files, rfl, fun fuel => by rw [perform, hact]⟩
  | _ => rw [hact] at h; cases h

/-- A read hands out input and is counted; nothing else changes. -/
theorem read_after (r : Rehearsal) (limit : Nat) : ∃ pieces consumed,
    (r.read limit).2 = { r with reads := r.reads + 1, pieces, consumed } := by
  unfold read handOut
  dsimp only
  split
  · exact ⟨_, _, rfl⟩
  · split <;> exact ⟨_, _, rfl⟩

/-- A write that does not fail is kept. -/
theorem write_after (r : Rehearsal) (data : Bytes) : ∃ written,
    (r.write data).2 = { r with writeCalls := r.writeCalls + 1, written } ∧
      (r.failingWrite = none → written = data :: r.written) := by
  unfold write
  dsimp only
  split
  · rename_i hfails
    exact ⟨_, rfl, fun hnone => by rw [hnone] at hfails; cases hfails⟩
  · exact ⟨_, rfl, fun _ => rfl⟩

/-- How much a read was given. -/
def given : Except Fault Bytes → Nat
  | .ok data => data.length
  | .error _ => 0

theorem handOut_takes (r : Rehearsal) (limit : Nat) :
    (r.handOut limit).2.remaining + (r.handOut limit).1.length ≤ r.remaining := by
  unfold handOut
  cases hpieces : r.pieces with
  | nil => exact Nat.le_refl _
  | cons piece rest =>
    simp only [remaining, hpieces, List.foldr_cons, List.length_take]
    split
    · omega
    · simp only [List.foldr_cons, List.length_drop]
      omega

/-- What a read hands out is no longer to come. -/
theorem read_takes (r : Rehearsal) (limit : Nat) :
    (r.read limit).2.remaining + given (r.read limit).1 ≤ r.remaining := by
  unfold read
  dsimp only
  split
  · exact Nat.le_refl _
  · exact handOut_takes _ limit

/-- An act counts the call that it makes. -/
theorem step?_calls (h : r.step? t = some (r', t')) (c : Call) :
    r'.calls c = r.calls c + if (t.act.failed? c).isSome then 1 else 0 := by
  have htakes := step?_eq_some.mp h
  generalize t.act = act at htakes
  cases htakes with
  | silent => cases c <;> rfl
  | read limit answer =>
    obtain ⟨pieces, consumed, hafter⟩ := read_after r limit
    rw [hafter]
    cases c <;> rfl
  | write data answer =>
    obtain ⟨written, hafter, -⟩ := write_after r data
    rw [hafter]
    cases c <;> rfl

/-- Where nothing fails, all that is to be written is, and stays so. -/
theorem NoFailureSet.step (hr : r.NoFailureSet) (h : r.step? t = some (r', t')) :
    r'.NoFailureSet ∧ r.written <:+ r'.written := by
  have htakes := step?_eq_some.mp h
  generalize t.act = act at htakes
  cases htakes with
  | silent => exact ⟨hr, List.suffix_rfl⟩
  | read limit answer =>
    obtain ⟨pieces, consumed, hafter⟩ := read_after r limit
    rw [hafter]
    exact ⟨⟨hr.read, hr.write, hr.written⟩, List.suffix_rfl⟩
  | write data answer =>
    obtain ⟨written, hafter, hkept⟩ := write_after r data
    rw [hafter, hkept hr.write]
    exact ⟨⟨hr.read, hr.write, congrArg Nat.succ hr.written⟩, List.suffix_cons data r.written⟩

/-! ### The same act where a call fails -/

theorem handOut_failAt (r : Rehearsal) (c : Call) (k limit : Nat) :
    (r.failAt c k).handOut limit = ((r.handOut limit).1, (r.handOut limit).2.failAt c k) := by
  cases hpieces : r.pieces with
  | nil => cases c <;> simp only [handOut, failAt, hpieces]
  | cons piece rest => cases c <;> simp only [handOut, failAt, hpieces]

theorem read_of_granted (h : r.failingRead ≠ some (r.reads + 1)) (limit : Nat) :
    r.read limit = (.ok ((r.counting .read).handOut limit).1,
      ((r.counting .read).handOut limit).2) := if_neg h

theorem write_of_granted (h : r.failingWrite ≠ some (r.writeCalls + 1)) (data : Bytes) :
    r.write data = (.ok (), { r.counting .write with written := data :: r.written }) := if_neg h

theorem NoFailureSet.failAt_read (hr : r.NoFailureSet) (h : c = .read → r.reads + 1 ≠ k)
    (limit : Nat) :
    (r.failAt c k).read limit = ((r.read limit).1, (r.read limit).2.failAt c k) := by
  have hgranted : r.failingRead ≠ some (r.reads + 1) := by rw [hr.read]; exact nofun
  have hfailAt : (r.failAt c k).failingRead ≠ some ((r.failAt c k).reads + 1) := by
    cases c with
    | read => exact fun hk => h rfl (Option.some.inj hk).symm
    | write => exact hgranted
  have hcounting : (r.failAt c k).counting .read = (r.counting .read).failAt c k := by
    cases c <;> rfl
  rw [read_of_granted hgranted, read_of_granted hfailAt, hcounting, handOut_failAt]

theorem NoFailureSet.failAt_write (hr : r.NoFailureSet) (h : c = .write → r.writeCalls + 1 ≠ k)
    (data : Bytes) :
    (r.failAt c k).write data = ((r.write data).1, (r.write data).2.failAt c k) := by
  have hgranted : r.failingWrite ≠ some (r.writeCalls + 1) := by rw [hr.write]; exact nofun
  have hfailAt : (r.failAt c k).failingWrite ≠ some ((r.failAt c k).writeCalls + 1) := by
    cases c with
    | read => exact hgranted
    | write => exact fun hk => h rfl (Option.some.inj hk).symm
  rw [write_of_granted hgranted, write_of_granted hfailAt]
  cases c <;> rfl

/-- A call that is not the one to fail is answered as it would have been. -/
theorem NoFailureSet.failAt_step (hr : r.NoFailureSet) (h : r.step? t = some (r', t'))
    (hother : (t.act.failed? c).isSome → r.calls c + 1 ≠ k) :
    (r.failAt c k).step? t = some (r'.failAt c k, t') := by
  rw [step?_eq_some] at h ⊢
  generalize t.act = act at h hother
  cases h with
  | silent => exact .silent t'
  | read limit answer =>
    have hread := hr.failAt_read (c := c) (k := k) (fun hc => by subst hc; exact hother rfl) limit
    have htakes := StepCases.read (r := r.failAt c k) limit answer
    rwa [hread] at htakes
  | write data answer =>
    have hwrite := hr.failAt_write (c := c) (k := k) (fun hc => by subst hc; exact hother rfl) data
    have htakes := StepCases.write (r := r.failAt c k) data answer
    rwa [hwrite] at htakes

/-- The call that is to fail does, and is counted. -/
theorem failing_step {next : Task P} (hnext : t.act.failed? c = some next)
    (hk : r.calls c + 1 = k) :
    (r.failAt c k).step? t = some ((r.counting c).failAt c k, next) := by
  cases hact : t.act with
  | read limit answer =>
    rw [hact] at hnext
    cases c <;> cases hnext
    have hread : (r.failAt .read k).read limit =
        (.error readFault, (r.counting .read).failAt .read k) := by
      rw [read, if_pos]
      · rfl
      · exact congrArg some hk.symm
    simp only [step?, hact, hread]
    rfl
  | write data answer =>
    rw [hact] at hnext
    cases c <;> cases hnext
    have hwrite : (r.failAt .write k).write data =
        (.error writeFault, (r.counting .write).failAt .write k) := by
      rw [write, if_pos]
      · rfl
      · exact congrArg some hk.symm
    simp only [step?, hact, hwrite]
    rfl
  | _ => rw [hact] at hnext; cases hnext

/-! ## Act by act -/

/-- What a rehearsal of a task comes to, act by act. -/
def Reaches (r : Rehearsal) (t : Task P) (r' : Rehearsal) (t' : Task P) : Prop :=
  Relation.ReflTransGen (fun a b : Rehearsal × Task P => a.1.step? a.2 = some b) (r, t) (r', t')

/-- What holds at the start and is kept by every act holds of all that a rehearsal comes to. -/
theorem Reaches.invariant {Q : Rehearsal → Task P → Prop} (h : Reaches r t r' t') (hstart : Q r t)
    (hstep : ∀ {r t r' t'}, Q r t → r.step? t = some (r', t') → Q r' t') : Q r' t' := by
  suffices hall : ∀ stood : Rehearsal × Task P, Relation.ReflTransGen _ (r, t) stood →
      Q stood.1 stood.2 from hall _ h
  intro stood hstood
  induction hstood with
  | refl => exact hstart
  | tail _ hlast ih => exact hstep ih hlast

theorem NoFailureSet.reaches (hr : r.NoFailureSet) (h : Reaches r t r' t') : r'.NoFailureSet ∧
    r.written <:+ r'.written := by
  refine h.invariant (Q := fun r' _ => r'.NoFailureSet ∧ r.written <:+ r'.written)
    ⟨hr, List.suffix_rfl⟩ ?_
  rintro r₁ t₁ r₂ t₂ ⟨hr₁, hwritten₁⟩ hstep
  obtain ⟨hr₂, hwritten₂⟩ := hr₁.step hstep
  exact ⟨hr₂, hwritten₁.trans hwritten₂⟩

/-- A rehearsal stands so when it comes to the call `k` of a kind. -/
structure AtCall (start : Rehearsal) (first : Task P) (c : Call) (k : Nat) (r : Rehearsal)
    (t : Task P) : Prop where
  reaches : Reaches start first r t
  calls : (t.act.failed? c).isSome
  count : r.calls c + 1 = k

theorem reaches_of_perform {fuel : Nat} {verdict : Verdict} {files : Snapshot}
    (h : r.perform fuel t = some (verdict, files, after)) :
    ∃ last, Reaches r t after last ∧ last.act = .finish verdict files := by
  induction fuel generalizing r t with
  | zero => cases h
  | succ fuel ih =>
    cases hstep : r.step? t with
    | some stood =>
      obtain ⟨r', t'⟩ := stood
      rw [perform_step hstep] at h
      obtain ⟨last, hcomes, hlast⟩ := ih h
      exact ⟨last, .head hstep hcomes, hlast⟩
    | none =>
      obtain ⟨verdict', files', hact, hends⟩ := perform_finish hstep
      cases (hends fuel).symm.trans h
      exact ⟨t, .refl, hact⟩

/-- A rehearsal ends within so many acts if each takes something off what is still to be done. -/
theorem perform_ends {Q : Rehearsal → Task P → Prop} {toDo : Rehearsal → Task P → Nat}
    (hstep : ∀ {r t r' t'}, Q r t → r.step? t = some (r', t') → Q r' t' ∧ toDo r' t' < toDo r t)
    {fuel : Nat} (hQ : Q r t) (hfuel : toDo r t < fuel) :
    ∃ result, r.perform fuel t = some result := by
  induction fuel generalizing r t with
  | zero => omega
  | succ fuel ih =>
    cases hnext : r.step? t with
    | none =>
      obtain ⟨verdict, files, -, hends⟩ := perform_finish hnext
      exact ⟨_, hends fuel⟩
    | some stood =>
      obtain ⟨r', t'⟩ := stood
      obtain ⟨hQ', hless⟩ := hstep hQ hnext
      rw [perform_step hnext]
      exact ih hQ' (by omega)

/-- **A rehearsal in which a call fails goes as one in which none does, up to that call**, and from
there on as the task does that was told of the fault. -/
theorem perform_failing {fuel : Nat} {verdict : Verdict} {files : Snapshot} (hr : r.NoFailureSet)
    (hk : r.calls c < k) (h : r.perform fuel t = some (verdict, files, after))
    (hafter : k ≤ after.calls c) : ∃ r' t' next left, AtCall r t c k r' t' ∧
      r'.perform (left + 2) t' = some (verdict, files, after) ∧ t'.act.failed? c = some next ∧
        (r.failAt c k).perform fuel t = ((r'.counting c).failAt c k).perform (left + 1) next := by
  induction fuel generalizing r t with
  | zero => cases h
  | succ fuel ih =>
    cases hstep : r.step? t with
    | none =>
      obtain ⟨verdict', files', -, hends⟩ := perform_finish hstep
      cases (hends fuel).symm.trans h
      omega
    | some stood =>
      obtain ⟨r', t'⟩ := stood
      have hrest := h
      rw [perform_step hstep] at hrest
      by_cases hnow : (t.act.failed? c).isSome ∧ r.calls c + 1 = k
      · obtain ⟨hcall, hcount⟩ := hnow
        obtain ⟨next, hnext⟩ := Option.isSome_iff_exists.mp hcall
        -- Where nothing fails an act is left after the call, at least to end.
        cases fuel with
        | zero => cases hrest
        | succ left =>
          exact ⟨r, t, next, left, ⟨.refl, hcall, hcount⟩, h, hnext,
            perform_step (failing_step hnext hcount) _⟩
      · have hother : (t.act.failed? c).isSome → r.calls c + 1 ≠ k := fun hcall hcount =>
          hnow ⟨hcall, hcount⟩
        have hless : r'.calls c < k := by
          have hcalls := step?_calls hstep c
          split at hcalls
          · rename_i hcall
            have := hother hcall
            omega
          · omega
        obtain ⟨r'', t'', next, left, hmeets, hends, hnext, hsame⟩ :=
          ih (hr.step hstep).1 hless hrest
        exact ⟨r'', t'', next, left, ⟨.head hstep hmeets.reaches, hmeets.calls, hmeets.count⟩,
          hends,
          hnext, (perform_step (hr.failAt_step hstep hother) fuel).trans hsame⟩

end Rehearsal

end Pipework
