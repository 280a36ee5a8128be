import Mathlib.Data.List.Forall2
import Pipework.Catalogue.Table
import Pipework.Proofs.Chains
import Pipework.Proofs.Snapshot
import Pipework.Resolve
import Pipework.Routine.Basic

/-!
# Resolving from the last command to the first

The commands of a chain are asked for from the right (`inquiry` is what asking for one of them
shows), and the stages come out from the left. The rightmost command that cannot become a stage ends
it: it names the fault, and nothing to its left is asked for (`resolves_from_right`).

* `command_resolvesTo`, `command_refused` — one command becomes a stage, or the fault bears its
  name.
* `chain_complete`, `chain_broken` — the chain where none is refused, and up to one that is.
-/

namespace Pipework

namespace Resolver

variable {P : Type} {r : Resolver P} {c : Command}

/-- What the size of the screen has to say about a variable. -/
def screen? (r : Resolver P) (key : String) : Option String :=
  match r.console.size with
  | none => none
  | some (rows, columns) =>
    if key = "LINES" then some (toString rows)
    else if key = "COLUMNS" then some (toString columns)
    else none

/-- The variables of a request are those that the command declares, but for the size of the screen. -/
theorem request_env (r : Resolver P) (c : Command) (key : String) :
    Dict.get? (r.request c).env key = (r.screen? key).or (Dict.get? c.env key) := by
  unfold request screen?
  cases r.console.size with
  | none => rfl
  | some size =>
    simp only [Dict.get?_insert]
    by_cases hlines : key = "LINES"
    · subst hlines
      rfl
    · by_cases hcolumns : key = "COLUMNS"
      · subst hcolumns
        rfl
      · rw [if_neg (Ne.symm hcolumns), if_neg (Ne.symm hlines), if_neg hlines, if_neg hcolumns]
        rfl

/-- What asking for a command shows: a status line stands while the catalogue is asked, whatever it
answers. -/
def inquiry (r : Resolver P) (c : Command) : List Effect :=
  if r.console.statuses then
    [.status ("[INFO] Fetching the command " ++ c.name ++ " ..."),
      .fetch (r.request c).args (r.request c).env, .clearStatus]
  else [.fetch (r.request c).args (r.request c).env]

theorem command_effects (r : Resolver P) (past : List Request) (c : Command) :
    (r.command past c).1 = r.inquiry c := by
  unfold command inquiry Console.status Console.clearStatus
  cases r.console.statuses <;> rfl

/-- A command that is asked for, with the requests that were made before it, last first. -/
structure Inquiry where
  past : List Request
  command : Command

/-- The commands of a chain with what was asked before each: for those on its right. -/
def asked (r : Resolver P) (past : List Request) : List Command → List Inquiry
  | [] => []
  | c :: rest => ⟨rest.map r.request ++ past, c⟩ :: r.asked past rest

/-- What the catalogue answers. -/
def answer (r : Resolver P) (q : Inquiry) : Except Fault (Resolution P) :=
  r.find q.past (r.request q.command)

/-- The stage that a command becomes: a program or a callback under the words and the variables of
its request, or a stage that the catalogue has ready. -/
inductive ResolvesTo (r : Resolver P) (q : Inquiry) : Stage P → Prop where
  | compiled {bytes : Bytes} {compile : Compiler P} {p : P}
      (hanswer : r.answer q = .ok (.source bytes)) (hcompiler : r.compiler = some compile)
      (hprogram : compile q.command.name bytes = .ok p) :
      ResolvesTo r q
        ⟨(r.request q.command).args, (r.request q.command).env, .program p bytes.length⟩
  | callback {f : Callback} (hanswer : r.answer q = .ok (.callback f)) :
      ResolvesTo r q ⟨(r.request q.command).args, (r.request q.command).env, .callback f⟩
  | ready {s : Stage P} (hanswer : r.answer q = .ok (.stage s)) : ResolvesTo r q s

/-- Why a command becomes no stage: the catalogue has none, or the program cannot be compiled. -/
inductive RefusalReason (r : Resolver P) (q : Inquiry) : String → Prop where
  | unknown {why : Fault} (hanswer : r.answer q = .error why) : RefusalReason r q why.short
  | uncompiled {bytes : Bytes} (hanswer : r.answer q = .ok (.source bytes))
      (hcompiler : r.compiler = none) : RefusalReason r q "no module compiler configured"
  | miscompiled {bytes : Bytes} {compile : Compiler P} {why : Fault}
      (hanswer : r.answer q = .ok (.source bytes)) (hcompiler : r.compiler = some compile)
      (hfault : compile q.command.name bytes = .error why) : RefusalReason r q why.short

/-- **A command becomes a stage, or it is refused under its own name.** -/
theorem command_cases (r : Resolver P) (q : Inquiry) :
    (∃ s, r.ResolvesTo q s ∧ (r.command q.past q.command).2 = .ok s) ∨
      ∃ why, r.RefusalReason q why ∧
        (r.command q.past q.command).2 = .error (.unresolved q.command.name why) := by
  have hcommand : (r.command q.past q.command).2 =
      r.stage q.command.name (r.request q.command) (r.answer q) := rfl
  rw [hcommand]
  cases hanswer : r.answer q with
  | error why => exact Or.inr ⟨_, .unknown hanswer, rfl⟩
  | ok answer =>
    cases answer with
    | callback f => exact Or.inl ⟨_, .callback hanswer, rfl⟩
    | stage s => exact Or.inl ⟨_, .ready hanswer, rfl⟩
    | source bytes =>
      cases hcompiler : r.compiler with
      | none => exact Or.inr ⟨_, .uncompiled hanswer hcompiler, by simp only [stage, hcompiler]⟩
      | some compile =>
        cases hprogram : compile q.command.name bytes with
        | ok p =>
          exact Or.inl ⟨_, .compiled hanswer hcompiler hprogram, by
            simp only [stage, hcompiler, hprogram]⟩
        | error why =>
          exact Or.inr ⟨_, .miscompiled hanswer hcompiler hprogram, by
            simp only [stage, hcompiler, hprogram]⟩

theorem command_refused {q : Inquiry} {why : String} (h : r.RefusalReason q why) :
    r.command q.past q.command =
      (r.inquiry q.command, .error (.unresolved q.command.name why)) := by
  refine Prod.ext (command_effects r q.past q.command) ?_
  show r.stage q.command.name (r.request q.command) (r.answer q) = _
  cases h with
  | unknown hanswer => rw [hanswer]; rfl
  | uncompiled hanswer hcompiler => simp only [hanswer, stage, hcompiler]
  | miscompiled hanswer hcompiler hfault => simp only [hanswer, stage, hcompiler, hfault]

theorem command_resolvesTo {q : Inquiry} (h : ∀ why, ¬ r.RefusalReason q why) :
    ∃ s, r.ResolvesTo q s ∧ r.command q.past q.command = (r.inquiry q.command, .ok s) := by
  obtain ⟨s, hs, hcommand⟩ | ⟨why, hwhy, -⟩ := command_cases r q
  · exact ⟨s, hs, Prod.ext (command_effects r q.past q.command) hcommand⟩
  · exact absurd hwhy (h why)

/-! ## Chains -/

/-- What asking for the given commands shows, the last one first. -/
def inquiries (r : Resolver P) (commands : List Command) : List Effect :=
  commands.reverse.flatMap r.inquiry

theorem inquiries_cons (c : Command) (rest : List Command) :
    r.inquiries (c :: rest) = r.inquiries rest ++ r.inquiry c := by
  simp [inquiries]

/-- **Where no command is refused each becomes a stage**, and the stages stand in order. -/
theorem chain_complete {past : List Request} {commands : List Command}
    (h : ∀ q ∈ r.asked past commands, ∀ why, ¬ r.RefusalReason q why) :
    ∃ stages, List.Forall₂ r.ResolvesTo (r.asked past commands) stages ∧
      r.chain past commands = (r.inquiries commands, .ok stages) := by
  induction commands with
  | nil => exact ⟨[], .nil, rfl⟩
  | cons c rest ih =>
    obtain ⟨hc, hrest⟩ := List.forall_mem_cons.mp h
    obtain ⟨stages, hstages, hchain⟩ := ih hrest
    obtain ⟨s, hs, hcommand⟩ := command_resolvesTo hc
    refine ⟨s :: stages, .cons hs hstages, ?_⟩
    simp only [chain, hchain, hcommand, inquiries_cons]

/-- What fails on the right leaves everything to its left unasked. -/
theorem chain_append_error {past : List Request} {commands : List Command} {effects : List Effect}
    {why : Failure} (h : r.chain past commands = (effects, .error why)) (left : List Command) :
    r.chain past (left ++ commands) = (effects, .error why) := by
  induction left with
  | nil => exact h
  | cons c left ih => simp only [List.cons_append, chain, ih]

/-- **The rightmost command that is refused ends the chain.** -/
theorem chain_broken (left : List Command) {past : List Request} {right : List Command}
    {why : String} (hc : r.RefusalReason ⟨right.map r.request ++ past, c⟩ why)
    (hright : ∀ q ∈ r.asked past right, ∀ why, ¬ r.RefusalReason q why) :
    r.chain past (left ++ c :: right) =
      (r.inquiries (c :: right), .error (.unresolved c.name why)) := by
  obtain ⟨stages, -, hchain⟩ := chain_complete hright
  refine chain_append_error ?_ left
  simp only [chain, hchain, command_refused hc, inquiries_cons]

/-! ## Lines -/

/-- How the chain of a command is resolved when some requests were made before. -/
structure RightToLeftSpec (r : Resolver P) (past : List Request) (c : Command) : Prop where
  /-- The chain follows first redirects that are pipes. -/
  follows : c.chain[0]? = some c ∧ ∀ i, c.chain[i + 1]? = c.chain[i]?.bind Command.piped?
  /-- A command is asked for with its words and its variables, but for the size of the screen. -/
  request : ∀ n ∈ c.chain, (r.request n).args = n.name :: n.args ∧
    ∀ key, Dict.get? (r.request n).env key = (r.screen? key).or (Dict.get? n.env key)
  /-- The rightmost command that is refused names the fault; those to its left are not asked for. -/
  broken : ∀ left n right why, c.chain = left ++ n :: right →
    r.RefusalReason ⟨right.map r.request ++ past, n⟩ why →
      (∀ q ∈ r.asked past right, ∀ why, ¬ r.RefusalReason q why) →
        r.statements past [.command c] =
          (r.inquiries (n :: right), .error (.unresolved n.name why))
  /-- Where none is refused the stages are those of the commands, in order. -/
  complete : (∀ q ∈ r.asked past c.chain, ∀ why, ¬ r.RefusalReason q why) →
    ∃ stages, List.Forall₂ r.ResolvesTo (r.asked past c.chain) stages ∧
      r.statements past [.command c] = (r.inquiries c.chain, .ok stages)

theorem rightToLeftSpec (r : Resolver P) (past : List Request) (c : Command) :
    r.RightToLeftSpec past c where
  follows := c.chain_follows
  request := by
    intro n _
    refine ⟨?_, request_env r n⟩
    unfold Resolver.request
    split <;> rfl
  broken := by
    intro left n right why hsplit hn hright
    have hbroken := chain_broken left hn hright
    rw [← hsplit] at hbroken
    exact hbroken
  complete := chain_complete

/-- **A line is resolved from its last command to its first.** One that is no single command is
unreadable, and nothing is asked for. -/
theorem resolves_from_right (r : Resolver P) (past : List Request) (parsed : List Statement) :
    ((∀ c, parsed ≠ [.command c]) →
      ∃ message, r.statements past parsed = ([], .error (.unreadable message))) ∧
    ∀ c, parsed = [.command c] → r.RightToLeftSpec past c := by
  refine ⟨fun hparsed => ?_, fun c _ => r.rightToLeftSpec past c⟩
  match parsed, hparsed with
  | [], _ => exact ⟨_, rfl⟩
  | [.command c], hparsed => exact absurd rfl (hparsed c)
  | [.unsupported construct], _ => exact ⟨_, rfl⟩
  | .command _ :: _ :: _, _ => exact ⟨_, rfl⟩
  | .unsupported _ :: _ :: _, _ => exact ⟨_, rfl⟩

/-- The second of three commands. -/
def middle : Command := .mk "b" [] [] (.pipe (.mk "c" [] [("LINES", "7"), ("V", "1")] .nil) .nil)

def threeCommands : Command := .mk "a" ["x"] [] (.pipe middle .nil)

/-- A resolver that knows the first and the last of them, on a screen of a known size. -/
def middleUnknown : Resolver Routine where
  find _ := CommandTable.find
    [("a", .callback fun _ inv _ => (.ok none, inv.files)), ("c", .stage none none (.program [] 0))]
  compiler := none
  console := ⟨true, true, some (24, 80)⟩

theorem resolves_from_right_middleUnknown :
    (∃ message, middleUnknown.statements [] [.command middle, .command middle] =
      ([], .error (.unreadable message))) ∧
    middleUnknown.statements [] [.command threeCommands] =
      ([.status "[INFO] Fetching the command c ...",
        .fetch ["c"] [("COLUMNS", "80"), ("LINES", "24"), ("V", "1")], .clearStatus,
        .status "[INFO] Fetching the command b ...",
        .fetch ["b"] [("COLUMNS", "80"), ("LINES", "24")], .clearStatus],
        .error (.unresolved "b" "command not found")) := by
  refine ⟨(resolves_from_right middleUnknown [] _).1 fun c => nofun, ?_⟩
  have hresolved := (resolves_from_right middleUnknown [] [.command threeCommands]).2 _ rfl
  have hbroken := hresolved.broken [threeCommands] middle
    [.mk "c" [] [("LINES", "7"), ("V", "1")] .nil] "command not found" rfl
    (.unknown (show middleUnknown.answer ⟨_, middle⟩ =
      .error (.of "command not found") from rfl)) (by
      intro q hq why hrefused
      rw [List.mem_singleton.mp hq] at hrefused
      cases congrArg Prod.snd (command_refused hrefused))
  exact hbroken.trans (Prod.ext (by decide) rfl)

end Resolver

end Pipework
