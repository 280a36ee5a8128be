import Pipework.Host.Basic

/-!
# What a stage yields

A stage that has its whole input and works alone comes to a yield: the pieces that it puts out, how
it ends, and the snapshot that it leaves. `Stage.yield?` is the plain recursion that finds it, for a
program within so many acts; an inline host reports exactly that (`start_callback`, `step_inline`).
-/

namespace Pipework

structure Yield where
  pieces : List Bytes
  verdict : Verdict
  files : Snapshot

namespace Yield

/-- All bytes that were put out. -/
def output (y : Yield) : Bytes := y.pieces.flatten

/-- A write of no bytes puts nothing out. -/
def putOut (data : Bytes) (y : Yield) : Yield :=
  if data.isEmpty then y else { y with pieces := data :: y.pieces }

/-- A yield with more pieces put out before it. -/
def after (pieces : List Bytes) (y : Yield) : Yield :=
  { y with pieces := pieces ++ y.pieces }

theorem after_after (before pieces : List Bytes) (y : Yield) :
    (y.after pieces).after before = y.after (before ++ pieces) := by
  simp only [after, List.append_assoc]

theorem putOut_eq_after (data : Bytes) (y : Yield) :
    y.putOut data = y.after (if data.isEmpty then [] else [data]) := by
  unfold putOut
  split <;> rfl

/-- What is reported of a yield when the stage was given the snapshot `initial`. -/
def events (initial : Snapshot) (y : Yield) : List StageEvent :=
  y.pieces.map .data ++ [Host.closing y.verdict initial y.files]

/-- A callback puts its text out with a newline behind it. -/
def ofCall (result : Except Fault (Option String)) (files : Snapshot) : Yield :=
  match result with
  | .ok (some text) => ⟨[Utf8.encode (text ++ "\n")], .done, files⟩
  | .ok none => ⟨[], .done, files⟩
  | .error why => ⟨[], .failed why, files⟩

theorem events_ofCall (result : Except Fault (Option String)) (initial files : Snapshot) :
    (ofCall result files).events initial = Host.callEvents result initial files := by
  cases result with
  | error why => rfl
  | ok text => cases text <;> rfl

end Yield

/-- What a task that is alone with its whole input comes to, if it ends within so many acts. -/
def Task.yield? {P : Type} [Program P] : Nat → Task P → Bytes → Option Yield
  | 0, _, _ => none
  | acts + 1, task, input =>
    match task.act with
    | .silent next => yield? acts next input
    | .read limit answer => yield? acts (answer (.ok (input.take limit))) (input.drop limit)
    | .write data answer => (yield? acts (answer (.ok ())) input).map (.putOut data)
    | .finish verdict files => some ⟨[], verdict, files⟩

namespace Stage

variable {P : Type}

/-- What a stage that is alone comes to on a snapshot and its whole input, behind some calls. -/
def yield? [Program P] (acts : Nat) (s : Stage P) (past : List Callback.Call) (files : Snapshot)
    (input : Bytes) : Option Yield :=
  match s.executable with
  | .program p _ => Task.yield? acts (.start p (s.invocation files)) input
  | .callback c =>
    let (result, after) := c past (s.invocation files) (Utf8.decodeLossy input)
    some (.ofCall result after)

end Stage

namespace Host

variable {P : Type} [Program P] {h : Host P}

theorem report_of_live (hlive : h.cancelled = false) (e : StageEvent) : h.report e = [e] := by
  simp [report, hlive]

/-! ## Inline hosts -/

/-- A program under an inline host gets its input whole. -/
theorem start_program (index : Nat) {stage : Stage P} {p : P} {size : Nat}
    (past : List Callback.Call) (files : Snapshot) (input : Option Bytes)
    (hp : stage.executable = .program p size) :
    (inline index stage files).start past input =
      ({ inline index stage files with
          supply := .given (input.getD [])
          phase := .working (.start p (stage.invocation files)) files false }, [], none) := by
  simp only [start, inline, startInline, hp]
  rfl

/-- **A callback reports its yield at once.** -/
theorem start_callback (index : Nat) {stage : Stage P} {c : Callback}
    (past : List Callback.Call) (files : Snapshot) (input : Option Bytes)
    (hc : stage.executable = .callback c) {acts : Nat} {y : Yield}
    (hy : stage.yield? acts past files (input.getD []) = some y) :
    (inline index stage files).start past input =
      ({ inline index stage files with phase := .over }, y.events files, none) := by
  simp only [Stage.yield?, hc, Option.some.injEq] at hy
  subst hy
  rw [Yield.events_ofCall]
  simp only [start, inline, startInline, hc]
  have hreport : report ⟨index, stage, .given [], .ready files, false, false⟩ = fun e => [e] :=
    funext fun e => report_of_live rfl e
  rw [hreport, List.flatMap_singleton']
  rfl

/-- **An inline host that was set going is on its way to the yield of its stage**, or has reported
it already. -/
theorem start_inline (index : Nat) (stage : Stage P) (past : List Callback.Call)
    (files : Snapshot) (input : Bytes) :
    ∃ h events,
      (∀ given : Option Bytes, given.getD [] = input →
        (inline index stage files).start past given = (h, events, none)) ∧
      h.index = index ∧ h.stage = stage ∧ h.kind = .inline ∧ h.cancelled = false ∧
      ((∃ task, h.phase = .working task files false ∧ h.supply = .given input ∧ events = [] ∧
          ∀ acts, stage.yield? acts past files input = task.yield? acts input) ∨
        (h.phase = .over ∧ ∃ y : Yield, events = y.events files ∧
          ∀ acts, stage.yield? acts past files input = some y)) := by
  cases hexec : stage.executable with
  | program p size =>
    refine ⟨{ inline index stage files with
      supply := .given input
      phase := .working (.start p (stage.invocation files)) files false }, [],
      fun given hgiven => ?_, rfl, rfl, rfl, rfl, Or.inl ⟨_, rfl, rfl, rfl, fun acts => ?_⟩⟩
    · rw [start_program index past files given hexec, hgiven]
    · simp only [Stage.yield?, hexec]
  | callback c =>
    have hyield : ∀ acts, stage.yield? acts past files input =
        some (.ofCall (c past (stage.invocation files) (Utf8.decodeLossy input)).1
          (c past (stage.invocation files) (Utf8.decodeLossy input)).2) := by
      intro acts
      simp only [Stage.yield?, hexec]
    refine ⟨{ inline index stage files with phase := .over }, _, fun given hgiven => ?_, rfl, rfl,
      rfl, rfl, Or.inr ⟨rfl, _, rfl, hyield⟩⟩
    subst hgiven
    exact start_callback index past files given hexec (hyield 0)

/-- What one act of an inline host comes to: it goes on with its next task, or is over. -/
def actResult (h : Host P) (initial : Snapshot) (rest : Bytes) : Act P → Host P × List StageEvent
  | .silent next => ({ h with phase := .working next initial false }, [])
  | .read limit answer =>
    ({ h with
      supply := .given (rest.drop limit)
      phase := .working (answer (.ok (rest.take limit))) initial false }, [])
  | .write data answer =>
    ({ h with phase := .working (answer (.ok ())) initial false },
      if data.isEmpty then [] else [.data data])
  | .finish verdict files => ({ h with phase := .over }, [closing verdict initial files])

/-- **An inline host at work can always act**, and nothing refuses it anything. -/
theorem step_inline {task : Task P} {initial : Snapshot} {rest : Bytes}
    (hlive : h.cancelled = false) (hphase : h.phase = .working task initial false)
    (hsupply : h.supply = .given rest) : h.step = some (h.actResult initial rest task.act) := by
  unfold step
  simp only [hphase]
  cases hact : task.act with
  | silent next => rfl
  | read limit answer =>
    simp only [hsupply]
    rfl
  | write data answer =>
    simp only [hlive, Bool.false_eq_true, if_false, actResult]
    split <;> rfl
  | finish verdict files =>
    simp only [report_of_live hlive]
    rfl

end Host

end Pipework
