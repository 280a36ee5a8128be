import Mathlib.Data.List.ReduceOption
import Pipework.Proofs.Run.OneStage
import Pipework.Proofs.Run.Completion
import Pipework.Proofs.Run.TypedLines
import Pipework.Proofs.Utf8
import Pipework.Shell

/-!
# What a shell does with its input

An execution of a shell is the list of the lines that it took and what each of them was used for.
The run of a command may take any schedule without a kill, and may have been cut short. Along an
execution every line of the input is used once (`Execution.linesUsedSpec`), because a run hands out
the lines in front of the source and leaves the others there (`reached_feedSpec`);
`readLines_execution` finds the execution of the shell itself.
-/

namespace Pipework

/-- The lines of an input that is valid text, and then its end. -/
theorem LineSource.ofBytes_eq {input : Bytes} {text : String} (h : Utf8.decode? input = .ok text) :
    ofBytes input = .ofList ((Lines.ofText text).map String.ofList) false := by
  have hmap : ∀ {pieces : List Bytes} {lines : List (List Char)},
      List.Forall₂ Utf8.Encodes pieces lines →
        pieces.map (fun line => (Utf8.decode? line).toOption) = (lines.map String.ofList).map some := by
    intro pieces lines hall
    induction hall with
    | nil => rfl
    | @cons piece line pieces lines hpiece _ ih =>
      have hdecode : Utf8.decode? piece = .ok (String.ofList line) := by
        rw [Utf8.decode?_eq_ok, String.toList_ofList]
        exact hpiece
      rw [List.map_cons, hdecode, ih]
      rfl
  unfold ofBytes ofList
  rw [hmap (Utf8.decode?_eq_ok.mp h).lines]
  rfl

namespace Session

variable {F : Type}

/-- The lines that are left to be read, when there will be no others. -/
def LinesLeft (s : Session F) (lines : List String) : Prop :=
  ∃ source, s.input = some source ∧ source.lines = lines.map some ∧ source.isOpen = false

/-- The lines, without ends of input, that were handed out since an earlier session. -/
def readSince (s base : Session F) : List String :=
  (s.linesRead.drop base.linesRead.length).reduceOption

variable {s base : Session F} {lines rest : List String}

theorem LinesLeft.next (h : s.LinesLeft lines) :
    (s.input >>= LineSource.take?).map Prod.fst = some lines.head? := by
  obtain ⟨source, hinput, hlines, hopen⟩ := h
  rw [hinput]
  cases lines with
  | nil => simp [LineSource.take?, hlines, hopen]
  | cons line rest => simp [LineSource.take?, hlines]

end Session

/-! ## Runs that read typed lines -/

namespace Run

variable {P F : Type} [Program P] [Filesystem F] {ctx : Setting P}

/-- A run that began in a session that held `lines` has handed the first of them to its first stage
and left the others. -/
structure FeedSpec (begun : Session F) (lines rest : List String) (r : Run P F) : Prop where
  read : r.session.linesRead.reduceOption =
    begun.linesRead.reduceOption ++ r.session.readSince begun
  lines : lines = r.session.readSince begun ++ rest
  rest : r.session.LinesLeft rest
  written : r.journal.typed = (r.session.readSince begun).map fun line => Utf8.encode (line ++ "\n")
  unrefused : r.journal.refused = []

theorem reduceOption_typed (delivered : List (Option String)) :
    delivered.filterMap typedLine =
      delivered.reduceOption.map fun line => Utf8.encode (line ++ "\n") := by
  induction delivered with
  | nil => rfl
  | cons line delivered ih =>
    cases line with
    | none => exact ih
    | some line => exact congrArg (_ :: ·) ih

/-- What is handed out of given lines are the first of them, and their end at last. -/
theorem reduceOption_handed {lines : List String} {delivered : List (Option String)}
    (h : delivered <+: lines.map some ++ [none]) :
    delivered.reduceOption = lines.take delivered.length := by
  induction lines generalizing delivered with
  | nil =>
    rcases List.prefix_concat_iff.mp h with rfl | hnil
    · rfl
    · rw [List.prefix_nil.mp hnil]
      rfl
  | cons line lines ih =>
    cases delivered with
    | nil => rfl
    | cons first delivered =>
      obtain ⟨rfl, hrest⟩ := List.cons_prefix_cons.mp h
      rw [List.reduceOption_cons_of_some, ih hrest]
      rfl

/-- **A run uses the lines in front of its source and leaves those behind them.** -/
theorem reached_feedSpec (ctx : Setting P) (line : String) (killed : Bool) (choices : List Choice)
    {begun : Session F} {lines : List String} (hholds : begun.LinesLeft lines) :
    ∃ rest, FeedSpec begun lines rest (reached ctx line begun killed choices) := by
  obtain ⟨source, hinput, hlines, hopen⟩ := hholds
  obtain ⟨⟨left, delivered, h⟩, -⟩ := reached_sourceSpec ctx line killed choices hinput
  generalize reached ctx line begun killed choices = r at h
  have hread : r.session.linesRead = begun.linesRead ++ delivered := h.lines
  have hsince : r.session.readSince begun = delivered.reduceOption := by
    rw [Session.readSince, hread, List.drop_left]
  have hfront : delivered.reduceOption = lines.take delivered.length :=
    reduceOption_handed (hlines ▸ h.handed)
  have hrest : left.lines = (lines.drop delivered.length).map some := by
    rw [h.rest, hlines, List.map_drop]
  refine ⟨lines.drop delivered.length, ?_, ?_, ⟨left, h.input, hrest, h.isOpen.trans hopen⟩, ?_,
    h.refused⟩
  · rw [hsince, hread, List.reduceOption_append]
  · rw [hsince, hfront, List.take_append_drop]
  · rw [hsince, ← reduceOption_typed]
    exact h.typed

/-! ## The schedule that is followed -/

theorem prepare_unkilled (ctx : Setting P) (line : String) (s : Session F) :
    ((Run.new line s).prepare ctx).killRequested = false := by
  have hrefuse : ∀ (why : Failure) (r : Run P F),
      (prepare.refuse ctx why r).killRequested = r.killRequested := by
    intro why r
    unfold prepare.refuse complete
    simp only
    split <;> rfl
  have hprepared := prepare_cases ctx (Run.new line s)
  generalize (Run.new line s).prepare ctx = r at hprepared ⊢
  cases hprepared with
  | reported hreport => rfl
  | unreadable hparse => exact hrefuse _ _
  | unresolved hparse hresolve => exact hrefuse _ _
  | ready hparse hresolve => rfl

/-- What is to be done next never is to ask for a kill. -/
theorem requestKill_not_mem_nextChoices (r : Run P F) : .requestKill ∉ r.nextChoices := by
  unfold nextChoices
  split
  · exact List.not_mem_nil
  · split
    · simp
    · split
      · simp
      · split
        · simp
        · split
          · simp
          · intro hmem
            obtain ⟨h, -, heq⟩ := List.mem_map.mp hmem
            cases heq

theorem iterate_steps (ctx : Setting P) (turns : Nat) (r : Run P F) :
    ∃ choices, .requestKill ∉ choices ∧ (advance ctx)^[turns] r = steps ctx r choices := by
  induction turns generalizing r with
  | zero => exact ⟨[], List.not_mem_nil, rfl⟩
  | succ turns ih =>
    obtain ⟨choices, hcalm, heq⟩ := ih (advance ctx r)
    refine ⟨r.nextChoices ++ choices, ?_, ?_⟩
    · rw [List.mem_append]
      exact not_or.mpr ⟨requestKill_not_mem_nextChoices r, hcalm⟩
    · rw [Function.iterate_succ_apply, heq, steps_append]
      rfl

/-- A run that is carried through takes one of the schedules without a kill. -/
theorem execute_reached (ctx : Setting P) (line : String) (s : Session F) (turns : Nat) :
    ∃ choices, .requestKill ∉ choices ∧
      execute ctx id turns (Run.new line s) = reached ctx line s false choices := by
  obtain ⟨choices, hcalm, heq⟩ :=
    iterate_steps ctx turns (activate ctx ((Run.new line s).prepare ctx))
  refine ⟨choices, hcalm, ?_⟩
  have hprepared : ({ (Run.new line s).prepare ctx with killRequested := false } : Run P F) =
      (Run.new line s).prepare ctx := by
    have hunkilled := prepare_unkilled ctx line s
    generalize (Run.new line s).prepare ctx = r at hunkilled
    cases r
    cases hunkilled
    rfl
  rw [reached, hprepared, ← heq, ← drive_eq]
  rfl

end Run

namespace Shell

variable {P F : Type} [Program P] [Filesystem F]

/-- A line that a shell has taken and what it was used for. The run of a command began in a session
and has come so far. -/
inductive Turn (P F : Type) [Program P] [Filesystem F] where
  | blank (line : String)
  | exit (line : String)
  | command (line : String) (begun : Session F) (r : Run P F)

namespace Turn

def run? : Turn P F → Option (Run P F)
  | .command _ _ r => some r
  | .blank _ | .exit _ => none

/-- The lines that a turn has used: its own and those that the run of a command has handed out. -/
def lines : Turn P F → List String
  | .command line begun r => line :: r.session.readSince begun
  | .blank line | .exit line => [line]

/-- A turn used its lines for what they are: a run was that of its line, what it handed out was
written to its first stage, and if it has come to an end it has a report. -/
def Fits (s : Shell P) : Turn P F → Prop
  | .blank line => Entry.ofLine line = .blank
  | .exit line => Entry.ofLine line = .exit
  | .command line begun r =>
    ∃ text choices, Entry.ofLine line = .command text ∧ .requestKill ∉ choices ∧
      r = Run.reached s.setting text begun false choices ∧
      r.journal.typed = (r.session.readSince begun).map (fun line => Utf8.encode (line ++ "\n")) ∧
      r.journal.refused = [] ∧
      (r.active = false → ∃ report, r.report = some report ∧ exitCode r = report.outcome.exitCode)

end Turn

/-- The last run of an execution. -/
def lastRun? (turns : List (Turn P F)) : Option (Run P F) := (turns.filterMap Turn.run?).getLast?

theorem lastRun?_cons (t : Turn P F) (turns : List (Turn P F)) :
    lastRun? (t :: turns) = (lastRun? turns).or t.run? := by
  unfold lastRun?
  cases t with
  | command line begun r =>
    show (r :: turns.filterMap Turn.run?).getLast? = _
    rw [List.getLast?_cons]
    cases (turns.filterMap Turn.run?).getLast? <;> rfl
  | _ =>
    rw [List.filterMap_cons_none rfl]
    exact (Option.or_none).symm

/-- How a shell can go on from a session, when the last run so far has given a code. -/
inductive Execution (s : Shell P) : Nat → Session F → List (Turn P F) → Nat → Session F → Prop where
  | ended {code : Nat} {session after : Session F} (htake : s.takeLine session = (none, after)) :
      Execution s code session [] code after
  | exit {code : Nat} {session after : Session F} {line : String}
      (htake : s.takeLine session = (some line, after)) (hentry : Entry.ofLine line = .exit) :
      Execution s code session [.exit line] code after
  | blank {code code' : Nat} {session after last : Session F} {line : String}
      {turns : List (Turn P F)} (htake : s.takeLine session = (some line, after))
      (hentry : Entry.ofLine line = .blank)
      (hrest : Execution s code after turns code' last) :
      Execution s code session (.blank line :: turns) code' last
  | command {code code' : Nat} {session begun last : Session F} {line text : String}
      {turns : List (Turn P F)} (htake : s.takeLine session = (some line, begun))
      (hentry : Entry.ofLine line = .command text) (choices : List Run.Choice)
      (hcalm : .requestKill ∉ choices)
      (hrest : Execution s (exitCode (Run.reached s.setting text begun false choices))
        (Run.reached s.setting text begun false choices).session turns code' last) :
      Execution s code session
        (.command line begun (Run.reached s.setting text begun false choices) :: turns) code' last

/-- How the lines of an input were used along an execution that has left `rest`. -/
structure LinesUsedSpec (s : Shell P) (code : Nat) (session : Session F) (lines : List String)
    (turns : List (Turn P F)) (code' : Nat) (last : Session F) (rest : List String) : Prop where
  /-- Every line is used once, in order, up to those that are left. -/
  once : lines = turns.flatMap Turn.lines ++ rest
  fits : ∀ t ∈ turns, t.Fits s
  left : last.LinesLeft rest
  read : last.linesRead.reduceOption =
    session.linesRead.reduceOption ++ turns.flatMap Turn.lines
  stopped : rest = [] ∨ ∃ before line, turns = before ++ [.exit line]
  exitLast : ∀ before line after, turns = before ++ .exit line :: after → after = []
  code : code' = (lastRun? turns).elim code exitCode
  files : last.files = (lastRun? turns).elim session.files (·.session.files)
  begun : ∀ before line begun r after, turns = before ++ .command line begun r :: after →
    begun.files = (lastRun? before).elim session.files (·.session.files)

variable {s : Shell P} {code code' : Nat} {session after last : Session F}
  {lines rest : List String} {turns : List (Turn P F)} {line : String}

/-! ## Turn by turn -/

omit [Program P] [Filesystem F] in
/-- Taking a line takes the first that is held, or finds the end, and changes nothing else. -/
theorem takeLine_linesLeft (s : Shell P) (hholds : session.LinesLeft lines) :
    ∃ after, s.takeLine session = (lines.head?, after) ∧ after.LinesLeft lines.tail ∧
      after.files = session.files ∧
      after.linesRead.reduceOption = session.linesRead.reduceOption ++ lines.head?.toList := by
  obtain ⟨source, hinput, hlines, hopen⟩ := hholds
  have hprompt : ((s.prompt.map s.console.print).getD []).filterMap Effect.lineRead? = [] := by
    cases s.prompt with
    | none => rfl
    | some prompt => exact Console.print_lines _ _
  have htake : source.take? = some (lines.head?, { source with lines := lines.tail.map some }) := by
    cases lines with
    | nil =>
      obtain ⟨left, isOpen, calls⟩ := source
      obtain rfl : left = [] := hlines
      obtain rfl : isOpen = false := hopen
      rfl
    | cons line rest => simp [LineSource.take?, hlines]
  have hnext : s.takeLine session = (lines.head?,
      { session.record ((s.prompt.map s.console.print).getD []) with
        input := some { source with lines := lines.tail.map some } }.record
          [.lineRead lines.head?]) := by
    have hinput' : (session.record ((s.prompt.map s.console.print).getD [])).input = some source :=
      hinput
    unfold takeLine
    simp only [hinput', Option.bind_eq_bind, Option.bind_some, htake]
  refine ⟨_, hnext, ⟨_, rfl, rfl, hopen⟩, rfl, ?_⟩
  rw [Session.linesRead_record, List.reduceOption_append]
  have hsame : ({ session.record ((s.prompt.map s.console.print).getD []) with
      input := some { source with lines := lines.tail.map some } } : Session F).linesRead =
        session.linesRead := by
    refine (Session.linesRead_record session _).trans ?_
    rw [hprompt, List.append_nil]
  rw [hsame]
  cases lines.head? <;> rfl

/-- A turn that does not end an execution comes before what follows it. -/
theorem LinesUsedSpec.cons (t : Turn P F) {lines' : List String}
    (h : LinesUsedSpec s code' after lines' turns code last rest)
    (hlines : lines = t.lines ++ lines') (hfits : t.Fits s) (hstays : ∀ line, t ≠ .exit line)
    (hread : after.linesRead.reduceOption = session.linesRead.reduceOption ++ t.lines)
    (hfiles : after.files = t.run?.elim session.files (·.session.files)) {code₀ : Nat}
    (hcode : code' = t.run?.elim code₀ exitCode)
    (hbegun : ∀ line begun r, t = .command line begun r → begun.files = session.files) :
    LinesUsedSpec s code₀ session lines (t :: turns) code last rest where
  once := by rw [hlines, h.once, List.flatMap_cons, List.append_assoc]
  fits := List.forall_mem_cons.mpr ⟨hfits, h.fits⟩
  left := h.left
  read := by rw [h.read, hread, List.flatMap_cons, List.append_assoc]
  stopped := by
    rcases h.stopped with hnil | ⟨before, line, rfl⟩
    · exact Or.inl hnil
    · exact Or.inr ⟨t :: before, line, rfl⟩
  exitLast := by
    intro before line behind heq
    cases before with
    | nil => exact absurd (List.cons.inj heq).1 (hstays line)
    | cons t' before => exact h.exitLast before line behind (List.cons.inj heq).2
  code := by
    rw [h.code, lastRun?_cons, hcode]
    cases lastRun? turns <;> rfl
  files := by
    rw [h.files, lastRun?_cons, hfiles]
    cases lastRun? turns <;> rfl
  begun := by
    intro before line begun r behind heq
    cases before with
    | nil => exact hbegun line begun r (List.cons.inj heq).1
    | cons t' before =>
      obtain ⟨rfl, hturns⟩ := List.cons.inj heq
      rw [h.begun before line begun r behind hturns, lastRun?_cons, hfiles]
      cases lastRun? before <;> rfl

/-- **Along an execution every line is used once.** -/
theorem Execution.linesUsedSpec (h : Execution s code session turns code' last) :
    ∀ {lines : List String},
    session.LinesLeft lines → ∃ rest, LinesUsedSpec s code session lines turns code' last rest := by
  induction h with
  | @ended code session after htake =>
    intro lines hholds
    obtain ⟨after', htake', hleft, hfiles, hread⟩ := takeLine_linesLeft s hholds
    obtain ⟨hnone, rfl⟩ := Prod.mk.inj (htake'.symm.trans htake)
    obtain rfl := List.head?_eq_none_iff.mp hnone
    refine ⟨[], rfl, List.forall_mem_nil _, hleft, hread, Or.inl rfl, ?_, rfl, hfiles, ?_⟩
    · intro before line behind heq
      simp at heq
    · intro before line begun r behind heq
      simp at heq
  | @exit code session after line htake hentry =>
    intro lines hholds
    obtain ⟨after', htake', hleft, hfiles, hread⟩ := takeLine_linesLeft s hholds
    obtain ⟨hsome, rfl⟩ := Prod.mk.inj (htake'.symm.trans htake)
    obtain ⟨rest, rfl⟩ := List.head?_eq_some_iff.mp hsome
    refine ⟨rest, rfl, ?_, hleft, hread, Or.inr ⟨[], line, rfl⟩, ?_, rfl, hfiles, ?_⟩
    · intro t ht
      rw [List.mem_singleton.mp ht]
      exact hentry
    · intro before line' behind heq
      cases before with
      | nil => exact (List.cons.inj heq).2.symm
      | cons t before => simp at heq
    · intro before line' begun r behind heq
      cases before with
      | nil => simp at heq
      | cons t before => simp at heq
  | @blank code code' session after last line turns htake hentry hrest ih =>
    intro lines hholds
    obtain ⟨after', htake', hleft, hfiles, hread⟩ := takeLine_linesLeft s hholds
    obtain ⟨hsome, rfl⟩ := Prod.mk.inj (htake'.symm.trans htake)
    obtain ⟨rest, rfl⟩ := List.head?_eq_some_iff.mp hsome
    obtain ⟨rest', huses⟩ := ih hleft
    exact ⟨rest', huses.cons (.blank line) rfl hentry (fun _ heq => nomatch heq) hread hfiles rfl
      fun _ _ _ heq => nomatch heq⟩
  | @command code code' session begun last line text turns htake hentry choices hcalm hrest ih =>
    intro lines hholds
    obtain ⟨begun', htake', hleft, hfiles, hread⟩ := takeLine_linesLeft s hholds
    obtain ⟨hsome, rfl⟩ := Prod.mk.inj (htake'.symm.trans htake)
    obtain ⟨lines', rfl⟩ := List.head?_eq_some_iff.mp hsome
    obtain ⟨rest, hfeeds⟩ := Run.reached_feedSpec s.setting text false choices hleft
    obtain ⟨rest', huses⟩ := ih hfeeds.rest
    refine ⟨rest', huses.cons (.command line begun' _) ?_ ⟨text, choices, hentry, hcalm, rfl, hfeeds.written,
      hfeeds.unrefused, fun hover => ?_⟩ (fun _ heq => nomatch heq) ?_ rfl rfl ?_⟩
    · exact congrArg (line :: ·) hfeeds.lines
    · rcases Run.reached_undecided_or_endedWith s.setting text begun' false choices with
        hopen | ⟨report, hend⟩
      · exact absurd (hopen.active.symm.trans hover) (by decide)
      · refine ⟨report, hend.report, ?_⟩
        rw [exitCode, hend.report]
        rfl
    · rw [hfeeds.read, hread, List.append_assoc]
      rfl
    · rintro _ _ _ ⟨⟩
      exact hfiles

/-! ## The shell itself -/

/-- The rounds of a shell are an execution when there are enough of them. -/
theorem readLines_execution (s : Shell P) (turns count : Nat) : ∀ (code : Nat) {session : Session F}
    {lines : List String}, session.LinesLeft lines → lines.length < count →
      ∃ execution, Execution s code session execution (s.readLines turns count code session).1
        (s.readLines turns count code session).2 := by
  induction count with
  | zero => exact fun _ _ _ _ hlt => absurd hlt (Nat.not_lt_zero _)
  | succ count ih =>
    intro code session lines hholds hlt
    obtain ⟨after, htake, hleft, -, -⟩ := takeLine_linesLeft s hholds
    cases lines with
    | nil =>
      have hround : s.readLines turns (count + 1) code session = (code, after) := by
        simp only [readLines, htake, List.head?_nil]
      rw [hround]
      exact ⟨[], .ended htake⟩
    | cons line rest =>
      have hlt' : rest.length < count := Nat.lt_of_succ_lt_succ hlt
      simp only [readLines, htake, List.head?_cons]
      cases hentry : Entry.ofLine line with
      | blank =>
        obtain ⟨execution, hcourse⟩ := ih code hleft hlt'
        exact ⟨.blank line :: execution, .blank htake hentry hcourse⟩
      | exit => exact ⟨[.exit line], .exit htake hentry⟩
      | command text =>
        obtain ⟨choices, hcalm, hrun⟩ := Run.execute_reached s.setting text after turns
        obtain ⟨rest', hfeeds⟩ := Run.reached_feedSpec s.setting text false choices hleft
        have hless : rest'.length < count := by
          have hlength := congrArg List.length hfeeds.lines
          rw [List.length_append] at hlength
          simp only [List.tail_cons] at hlength
          omega
        simp only [carryOut, hrun]
        obtain ⟨execution, hcourse⟩ := ih _ hfeeds.rest hless
        exact ⟨_, .command htake hentry choices hcalm hcourse⟩

/-- **A shell uses every line of its input once, and nothing behind the line that ends it**: whatever
schedule the runs of its commands take, each line is skipped, carried out, the last one, or written
to the first stage of the run that is under way. -/
theorem interact_uses (s : Shell P) (session : Session F) {input : Bytes} {text : String}
    (hinput : session.input = some (.ofBytes input)) (hvalid : Utf8.decode? input = .ok text) :
    (∀ turns code last, Execution s 0 session turns code last →
      ∃ rest, LinesUsedSpec s 0 session ((Lines.ofText text).map String.ofList)
          turns code last rest ∧
        (last.input >>= LineSource.take?).map Prod.fst = some rest.head?) ∧
    ∀ turns, ∃ execution, Execution s 0 session execution (s.interact turns session).1
      (s.interact turns session).2 := by
  rw [LineSource.ofBytes_eq hvalid] at hinput
  have hholds : session.LinesLeft ((Lines.ofText text).map String.ofList) := ⟨_, hinput, rfl, rfl⟩
  refine ⟨fun turns code last hcourse => ?_, fun turns => ?_⟩
  · obtain ⟨rest, huses⟩ := hcourse.linesUsedSpec hholds
    exact ⟨rest, huses, huses.left.next⟩
  · refine readLines_execution s turns _ 0 hholds ?_
    rw [hinput]
    simp [LineSource.ofList]

/-- A shell in which every line stands for a stage that copies one line. -/
def copying : Shell Routine := ⟨.fixed [⟨["p"], [], .program [.copy "" (some 1)] 0⟩] .none true, none⟩

/-- The run of the first line takes the second, and what stands behind `exit` is not taken. -/
def typedAhead : Session FileStore :=
  { Session.streaming 4 with input := some (.ofBytes (Utf8.encode "p\nx\n\nexit\nq\n")) }

theorem interact_uses_copying : ∃ execution rest,
    Execution copying 0 typedAhead execution 0 (copying.interact 8 typedAhead).2 ∧
      LinesUsedSpec copying 0 typedAhead ["p", "x", "", "exit", "q"] execution 0
        (copying.interact 8 typedAhead).2 rest ∧ rest.head? = some "q" := by
  have hvalid : Utf8.decode? (Utf8.encode "p\nx\n\nexit\nq\n") = .ok "p\nx\n\nexit\nq\n" := by
    decide +kernel
  have hlines : (Lines.ofText "p\nx\n\nexit\nq\n").map String.ofList =
      ["p", "x", "", "exit", "q"] := by decide
  have hcode : (copying.interact 8 typedAhead).1 = 0 := by decide +kernel
  have hnext : ((copying.interact 8 typedAhead).2.input >>= LineSource.take?).map Prod.fst =
      some (some "q") := by decide +kernel
  obtain ⟨huses, hcourse⟩ := interact_uses copying typedAhead rfl hvalid
  obtain ⟨execution, h⟩ := hcourse 8
  obtain ⟨rest, hrest, hhead⟩ := huses _ _ _ h
  rw [hlines, hcode] at hrest
  rw [hcode] at h
  exact ⟨execution, rest, h, hrest, Option.some.inj (hhead.symm.trans hnext)⟩

end Shell

end Pipework
