import Pipework.Proofs.Lines
import Pipework.Proofs.Rehearsing

/-!
# Rehearsals of scripts

A rehearsal of a script comes to its end within the acts that it is given (`rehearse_ends`): every
act takes something off what is still to be done, of the input and of the steps (`toDo`). Where a
read or a write fails, the rehearsal ends there and then: up to the call that fails it goes as it
would have gone, and all that is left to happen is the fault (`failing_call_cuts`).

* `Due` — what a script does at its next call, everything before it done.
* `State.Settled` — a script that waits to write holds the files that it goes on with.
-/

namespace Pipework

namespace Script

/-! ## What is due -/

def State.files : State → Snapshot
  | .before _ files | .filtering _ _ files | .writing _ files _ | .ended _ files => files

/-- What a script does next that its surroundings have a part in. -/
inductive Due where
  | line (filter : Filter) (rest : List Step) (files : Snapshot)
  | write (data : Bytes) (next : State)
  | finish (verdict : Verdict) (files : Snapshot)

namespace Due

/-- The files that a script goes on with from there. -/
def files : Due → Snapshot
  | .line _ _ files | .finish _ files => files
  | .write _ next => next.files

def demand : Due → Demand State
  | .line filter rest files => .line (filter.gotLine rest files)
  | .write data next => .write data (gotWrite next.files next)
  | .finish verdict files => .finish verdict files

/-- Steps that write a file are done at once, and so is the emptying of files that a filter collects
lines in. -/
def ofSteps (inv : Invocation) : List Step → Snapshot → Due
  | [], files => .finish .done files
  | .emit text :: rest, files => .write (textLine (expand inv text)) (.before rest files)
  | .read path :: rest, files =>
    match Snapshot.read? files (expand inv path) with
    | some content => .write (Utf8.encode content) (.before rest files)
    | none => .finish (.failed (.of (expand inv path ++ ": No such file or directory"))) files
  | .write path text :: rest, files =>
    match Snapshot.write files (expand inv path) (expand inv text ++ "\n") with
    | .ok files => ofSteps inv rest files
    | .error why => .finish (.failed why) files
  | .fail message :: _, files => .finish (.failed (.of (expand inv message))) files
  | .filter chain count :: rest, files =>
    match Filter.start inv chain count files with
    | .ok (filter, files) => .line filter rest files
    | .error why => .finish (.failed why) files

theorem demand_ofSteps (inv : Invocation) (steps : List Step) (files : Snapshot) :
    (ofSteps inv steps files).demand = begin inv steps files := by
  induction steps generalizing files with
  | nil => rfl
  | cons step rest ih =>
    cases step with
    | emit text => rfl
    | read path =>
      cases hread : Snapshot.read? files (expand inv path) with
      | some content => simp only [ofSteps, begin, hread, Due.demand, State.files]
      | none => simp only [ofSteps, begin, hread, Due.demand]
    | write path text =>
      cases hwrite : Snapshot.write files (expand inv path) (expand inv text ++ "\n") with
      | ok files => simpa only [ofSteps, begin, hwrite] using ih files
      | error why => simp only [ofSteps, begin, hwrite, Due.demand]
    | fail message => rfl
    | filter chain count =>
      cases hstart : Filter.start inv chain count files with
      | ok started => simp only [ofSteps, begin, hstart, Due.demand]
      | error why => simp only [ofSteps, begin, hstart, Due.demand]

end Due

namespace State

/-- A script that waits to write goes on with the files that it holds. -/
def Settled : State → Prop
  | .writing _ files next => next.files = files ∧ next.Settled
  | _ => True

def due (inv : Invocation) : State → Due
  | .before steps files => .ofSteps inv steps files
  | .filtering filter rest files => .line filter rest files
  | .writing data _ next => .write data next
  | .ended verdict files => .finish verdict files

/-- **A script demands what is due.** -/
theorem Settled.demand_due {s : State} (h : s.Settled) (inv : Invocation) :
    s.demand inv = (s.due inv).demand := by
  cases s with
  | before steps files => exact (Due.demand_ofSteps inv steps files).symm
  | writing data files next =>
    obtain ⟨hfiles, -⟩ := h
    simp only [demand, due, Due.demand, hfiles]
  | _ => rfl

end State

/-- Where a script goes on by a write that is due it stands settled. -/
def Due.Settled : Due → Prop
  | .write _ next => next.Settled
  | _ => True

theorem Due.settled_ofSteps (inv : Invocation) (steps : List Step) (files : Snapshot) :
    (ofSteps inv steps files).Settled := by
  induction steps generalizing files with
  | nil => trivial
  | cons step rest ih =>
    cases step with
    | emit text => trivial
    | read path => unfold ofSteps; split <;> trivial
    | write path text =>
      unfold ofSteps
      split
      · exact ih _
      · trivial
    | fail message => trivial
    | filter chain count => unfold ofSteps; split <;> trivial

theorem State.Settled.due {s : State} (h : s.Settled) (inv : Invocation) : (s.due inv).Settled := by
  cases s with
  | before steps files => exact Due.settled_ofSteps inv steps files
  | writing data files next => exact h.2
  | _ => trivial

/-- Where a filter goes on when it has let a line through. -/
def Filter.after (f : Filter) (last : Bool) (rest : List Step) (files : Snapshot) : State :=
  if last then f.close rest files else .filtering f rest files

theorem Filter.settled_close (f : Filter) (rest : List Step) (files : Snapshot) :
    (f.close rest files).Settled ∧ (f.close rest files).files = files := by
  unfold Filter.close
  split
  · exact ⟨⟨rfl, trivial⟩, rfl⟩
  · exact ⟨trivial, rfl⟩

theorem Filter.settled_after (f : Filter) (last : Bool) (rest : List Step) (files : Snapshot) :
    (f.after last rest files).Settled ∧ (f.after last rest files).files = files := by
  cases last with
  | true => exact f.settled_close rest files
  | false => exact ⟨trivial, rfl⟩

theorem Filter.settled_gotLine (f : Filter) (rest : List Step) (files : Snapshot)
    (got : Except Fault (Option String)) : (f.gotLine rest files got).Settled := by
  match got with
  | .error why => trivial
  | .ok none => exact (f.settled_close rest files).1
  | .ok (some line) =>
    unfold Filter.gotLine
    dsimp only
    split
    · trivial
    · trivial
    · exact (settled_close _ rest _).1
    · rename_i last cells files' _
      obtain ⟨hsettled, hfiles⟩ :=
        Filter.settled_after { f with cells, passed := f.passed + 1 } last rest files'
      split
      · exact hsettled
      · exact ⟨hfiles, hsettled⟩

/-! ## What is left to do -/

/-- Acts that a script may still need, but for those that its input makes necessary. -/
def State.toDo : State → Nat
  | .before steps _ => 4 * steps.length
  | .filtering _ rest _ => 4 * rest.length + 2
  | .writing _ _ next => next.toDo + 1
  | .ended .. => 0

def Due.toDo : Due → Nat
  | .line _ rest _ => 4 * rest.length + 2
  | .write _ next => next.toDo + 1
  | .finish .. => 0

theorem Due.toDo_ofSteps_le (inv : Invocation) (steps : List Step) (files : Snapshot) :
    (ofSteps inv steps files).toDo ≤ 4 * steps.length := by
  induction steps generalizing files with
  | nil => exact Nat.le_refl 0
  | cons step rest ih =>
    have hlength : 4 * (step :: rest).length = 4 * rest.length + 4 := rfl
    rw [hlength]
    cases step with
    | emit text => exact Nat.add_le_add_left (by decide) _
    | read path =>
      unfold ofSteps
      split
      · exact Nat.add_le_add_left (by decide) _
      · exact Nat.zero_le _
    | write path text =>
      unfold ofSteps
      split
      · exact Nat.le_add_right_of_le (ih _)
      · exact Nat.zero_le _
    | fail message => exact Nat.zero_le _
    | filter chain count =>
      unfold ofSteps
      split
      · exact Nat.add_le_add_left (by decide) _
      · exact Nat.zero_le _

theorem State.toDo_due_le (inv : Invocation) (s : State) : (s.due inv).toDo ≤ s.toDo := by
  cases s with
  | before steps files => exact Due.toDo_ofSteps_le inv steps files
  | _ => exact Nat.le_refl _

theorem Filter.toDo_close_le (f : Filter) (rest : List Step) (files : Snapshot) :
    (f.close rest files).toDo ≤ 4 * rest.length + 1 := by
  unfold Filter.close
  split
  · exact Nat.le_refl _
  · exact Nat.le_succ _

theorem Filter.toDo_after_le (f : Filter) (last : Bool) (rest : List Step) (files : Snapshot) :
    (f.after last rest files).toDo ≤ 4 * rest.length + 2 := by
  cases last with
  | true => exact Nat.le_succ_of_le (f.toDo_close_le rest files)
  | false => exact Nat.le_refl _

/-- A line costs at most one act more than to go on without it; a filter that is given none ends. -/
theorem Filter.toDo_gotLine_le (f : Filter) (rest : List Step) (files : Snapshot)
    (got : Except Fault (Option String)) :
    (f.gotLine rest files got).toDo ≤ 4 * rest.length + 3 ∧
      ((∀ line, got ≠ .ok (some line)) →
        (f.gotLine rest files got).toDo ≤ 4 * rest.length + 1) := by
  match got with
  | .error why => exact ⟨Nat.zero_le _, fun _ => Nat.zero_le _⟩
  | .ok none =>
    have hclose := f.toDo_close_le rest files
    exact ⟨Nat.le_trans hclose (by omega), fun _ => hclose⟩
  | .ok (some line) =>
    refine ⟨?_, fun h => absurd rfl (h line)⟩
    unfold Filter.gotLine
    dsimp only
    split
    · exact Nat.zero_le _
    · exact Nat.add_le_add_left (by decide) _
    · exact Nat.le_trans (toDo_close_le _ rest _) (by omega)
    · rename_i last cells files' _
      have hafter := Filter.toDo_after_le { f with cells, passed := f.passed + 1 } last rest files'
      split
      · exact Nat.le_succ_of_le hafter
      · exact Nat.succ_le_succ hafter

/-! ## Acts -/

/-- A script that stands settled acts as is due. -/
theorem act_due (t : Task Script) (h : t.state.state.Settled) :
    t.act = match t.state.state.due t.state.inv with
      | .line filter rest files =>
        let answer := fun got => Run.mk t.state.inv (filter.gotLine rest files got)
        match t.lines.poll with
        | .line text after => .silent { t with state := answer (.ok (some text)), lines := after }
        | .finished => .silent { t with state := answer (.ok none) }
        | .starved => .read LineBuffer.pieceLimit (t.gotPiece answer)
      | .write data next =>
        .write data fun result => { t with state := ⟨t.state.inv, gotWrite next.files next result⟩ }
      | .finish verdict files => .finish verdict files := by
  have hdemand : Program.demand t.state =
      ((t.state.state.due t.state.inv).demand).map (Run.mk t.state.inv) :=
    congrArg (Demand.map (Run.mk t.state.inv)) (h.demand_due t.state.inv)
  unfold Task.act
  rw [hdemand]
  cases t.state.state.due t.state.inv <;> rfl

/-- What a rehearsal still has to do. A byte costs an act to read and, as it may be a line of its
own, one to take that line; the line may cost one to write. -/
def toDo (r : Rehearsal) (t : Task Script) : Nat :=
  4 * r.remaining + 2 * t.lines.held.length + (if t.lines.ended then 0 else 1) + t.state.state.toDo

/-- **Every act of a script leaves it settled, and less to do.** -/
theorem settled_step {r r' : Rehearsal} {t t' : Task Script} (h : t.state.state.Settled)
    (hstep : r.step? t = some (r', t')) :
    t'.state.state.Settled ∧ toDo r' t' < toDo r t := by
  have hdue := h.due t.state.inv
  have hless := State.toDo_due_le t.state.inv t.state.state
  have hact := act_due t h
  cases hcase : t.state.state.due t.state.inv with
  | line filter rest files =>
    rw [hcase] at hact hless
    have hline : 4 * rest.length + 2 ≤ t.state.state.toDo := hless
    cases hpoll : t.lines.poll with
    | line text after =>
      simp only [hpoll] at hact
      simp only [Rehearsal.step?, hact, Option.some.injEq, Prod.mk.injEq] at hstep
      obtain ⟨rfl, rfl⟩ := hstep
      obtain ⟨hheld, hended⟩ := LineBuffer.poll_line_shorter hpoll
      have hgot := (filter.toDo_gotLine_le rest files (.ok (some text))).1
      refine ⟨filter.settled_gotLine rest files (.ok (some text)), ?_⟩
      simp only [toDo, hended]
      omega
    | finished =>
      simp only [hpoll] at hact
      simp only [Rehearsal.step?, hact, Option.some.injEq, Prod.mk.injEq] at hstep
      obtain ⟨rfl, rfl⟩ := hstep
      have hgot := (filter.toDo_gotLine_le rest files (.ok none)).2 (by rintro _ ⟨⟩)
      refine ⟨filter.settled_gotLine rest files (.ok none), ?_⟩
      simp only [toDo]
      omega
    | starved =>
      simp only [hpoll] at hact
      simp only [Rehearsal.step?, hact, Option.some.injEq, Prod.mk.injEq] at hstep
      obtain ⟨rfl, rfl⟩ := hstep
      have hopen := LineBuffer.poll_starved hpoll
      have htakes := r.read_takes LineBuffer.pieceLimit
      cases hread : (r.read LineBuffer.pieceLimit).1 with
      | error why =>
        rw [hread, Rehearsal.given] at htakes
        refine ⟨trivial, ?_⟩
        simp only [toDo, Task.gotPiece, Filter.gotLine, State.toDo, hopen]
        omega
      | ok data =>
        rw [hread, Rehearsal.given] at htakes
        refine ⟨h, ?_⟩
        simp only [toDo, Task.gotPiece, LineBuffer.feed_held, LineBuffer.feed_ended, hopen,
          List.length_append, Bool.false_or]
        -- A piece is taken off the input twice over; without one the input is at its end.
        cases data with
        | nil =>
          rw [List.length_nil] at htakes ⊢
          simp only [List.isEmpty_nil, if_true, Bool.false_eq_true, if_false]
          omega
        | cons b data =>
          rw [List.length_cons] at htakes ⊢
          simp only [List.isEmpty_cons, Bool.false_eq_true, if_false]
          omega
  | write data next =>
    rw [hcase] at hact hless hdue
    have hwrite : next.toDo + 1 ≤ t.state.state.toDo := hless
    simp only [Rehearsal.step?, hact, Option.some.injEq, Prod.mk.injEq] at hstep
    obtain ⟨rfl, rfl⟩ := hstep
    obtain ⟨written, hafter, -⟩ := r.write_after data
    rw [hafter]
    cases hresult : (r.write data).1 with
    | error why =>
      refine ⟨trivial, ?_⟩
      simp only [toDo, gotWrite, State.toDo, Rehearsal.remaining]
      omega
    | ok =>
      refine ⟨hdue, ?_⟩
      simp only [toDo, gotWrite, Rehearsal.remaining]
      omega
  | finish verdict files =>
    rw [hcase] at hact
    simp only [Rehearsal.step?, hact] at hstep
    cases hstep

/-- **A rehearsal of a script ends**, whatever is told to fail. -/
theorem rehearse_ends (script : Script) (inv : Invocation) (r : Rehearsal) :
    ∃ result, script.rehearse inv r = some result := by
  refine Rehearsal.perform_ends (Q := fun _ (t : Task Script) => t.state.state.Settled)
    settled_step trivial ?_
  show 4 * r.remaining + 0 + 1 + 4 * script.steps.length <
    4 * (r.remaining + script.steps.length + 1)
  omega

/-! ## Calls that fail -/

/-- The files of a running script at its next call: those that it goes on with. -/
def Run.files (run : Run) : Snapshot := (run.state.due run.inv).files

/-- A call that fails leaves a script nothing to do but to end, with the fault and the files as they
are at that call. -/
theorem act_failed {t next : Task Script} {c : Rehearsal.Call} (h : t.state.state.Settled)
    (hnext : t.act.failed? c = some next) :
    next.act = .finish (.failed c.fault) (Run.files t.state) := by
  have hact := act_due t h
  unfold Run.files
  cases hcase : t.state.state.due t.state.inv with
  | line filter rest files =>
    rw [hcase] at hact
    cases hpoll : t.lines.poll with
    | starved =>
      simp only [hpoll] at hact
      rw [hact] at hnext
      cases c <;> cases hnext
      rfl
    | _ =>
      simp only [hpoll] at hact
      rw [hact] at hnext
      cases hnext
  | write data after =>
    rw [hcase] at hact
    dsimp only at hact
    rw [hact] at hnext
    cases c <;> cases hnext
    rfl
  | finish verdict files =>
    rw [hcase] at hact
    dsimp only at hact
    rw [hact] at hnext
    cases hnext

/-- **A failing call cuts a script at exactly that point.** A rehearsal in which no call fails ends.
For each of its calls, counted by kind, there is the moment when it comes to it, with so many of the
writes behind it; where that call fails the rehearsal is left as it was at that moment but for the
call, the files are those of that moment, and the script fails with the fault of the call. -/
theorem failing_call_cuts (script : Script) (inv : Invocation) (pieces : List Bytes)
    (c : Rehearsal.Call) : ∃ verdict files after,
      script.rehearse inv (.ofPieces pieces none none) = some (verdict, files, after) ∧
        ∀ k, 0 < k → k ≤ after.calls c → ∃ r t,
          Rehearsal.AtCall (.ofPieces pieces none none) (Task.start script inv) c k r t ∧
          r.written.reverse = after.written.reverse.take r.writeCalls ∧
          script.rehearse inv ((Rehearsal.ofPieces pieces none none).failAt c k) =
            some (.failed c.fault, Run.files t.state, (r.counting c).failAt c k) := by
  obtain ⟨⟨verdict, files, after⟩, hends⟩ := script.rehearse_ends inv (.ofPieces pieces none none)
  refine ⟨verdict, files, after, hends, fun k hpositive hk => ?_⟩
  have hcalm := Rehearsal.NoFailureSet.ofPieces pieces
  have hnone : (Rehearsal.ofPieces pieces none none).calls c < k := by
    cases c <;> exact hpositive
  obtain ⟨r, t, next, left, hmeets, hrest, hnext, hfailing⟩ :=
    Rehearsal.perform_failing hcalm hnone hends hk
  obtain ⟨hcalm', -⟩ := hcalm.reaches hmeets.reaches
  have hsettled : t.state.state.Settled := hmeets.reaches.invariant
    (Q := fun _ (t : Task Script) => t.state.state.Settled) trivial
    fun h hstep => (settled_step h hstep).1
  refine ⟨r, t, hmeets, ?_, ?_⟩
  · obtain ⟨last, hlast, -⟩ := Rehearsal.reaches_of_perform hrest
    obtain ⟨-, hwritten⟩ := hcalm'.reaches hlast
    have hprefix := List.reverse_prefix.mpr hwritten
    rw [← hcalm'.written, ← List.length_reverse]
    exact List.prefix_iff_eq_take.mp hprefix
  · have hbound : script.actBound ((Rehearsal.ofPieces pieces none none).failAt c k) =
        script.actBound (.ofPieces pieces none none) := by
      cases c <;> rfl
    rw [rehearse, hbound, hfailing, Rehearsal.perform, act_failed hsettled hnext]

example : rehearse ⟨"s", [.emit "a", .write "f" "b", .emit "c", .write "f" ""]⟩ ⟨[], [], .null⟩
    (.ofPieces [] none (some 2)) =
      some (.failed Rehearsal.writeFault, .object [("f", .text "b\n")],
        { Rehearsal.ofPieces [] none (some 2) with writeCalls := 2, written := [textLine "a"] }) :=
  rfl

end Script

end Pipework
