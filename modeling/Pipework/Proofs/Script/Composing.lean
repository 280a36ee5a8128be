import Pipework.Proofs.Continuing
import Pipework.Proofs.Leaving
import Pipework.Proofs.Results
import Pipework.Proofs.Script.Acceptance
import Pipework.Proofs.Script.Copying
import Pipework.Proofs.Script.Fusion
import Pipework.Proofs.Script.Rehearsing
import Pipework.Proofs.Utf8

/-!
# Scripts one after the other

Where the first of two sources leaves no chain open, the two with a newline between them compile to
the steps of the one and then those of the other (`compile_joined`). These steps go as the one script
does and then, if that ends well, as the other does that starts on what is left: the files, the
lines that are held and the input that is not read (`rehearse_in_turn`). A script without filters
reads nothing (`reads_nothing`).

* `State.followed` — where a script stands that has more steps behind it; what it demands is what it
  demands without them, up to its end (`demand_followed`).
* `ComposeSpec` — the two ways for two scripts to go one after the other.
-/

namespace Pipework

namespace Script

open Blank

variable {name : String} {source source₁ source₂ : Bytes} {script first second : Script}
  {inv : Invocation} {steps more : List Step} {files : Snapshot} {r r' : Rehearsal}
  {t t' : Task Script} {result : Verdict × Snapshot × Rehearsal}

/-! ## Sources behind each other -/

/-- The carriage return of a line ending is a blank as any other. -/
theorem trim_dropReturn (line : List Char) :
    trimEnd (trimStart (Lines.dropReturn '\r' line)) = trimEnd (trimStart line) := by
  unfold Lines.dropReturn
  split
  · rename_i hlast
    obtain ⟨init, rfl⟩ := List.getLast?_eq_some_iff.mp (eq_of_beq hlast)
    obtain ⟨htrimmed, front, back, hinit, hfront, hback⟩ :=
      trim_eq_iff.mp (Eq.refl (trimEnd (trimStart init)))
    rw [List.dropLast_concat]
    refine (trim_eq_iff.mpr ⟨htrimmed, front, back ++ ['\r'], ?_, hfront, ?_⟩).symm
    · conv_lhs => rw [hinit]
      simp only [List.append_assoc]
    · exact List.forall_mem_append.mpr ⟨hback, List.forall_mem_singleton.mpr (by decide)⟩
  · rfl

/-- A newline at the end of a source makes no difference. -/
theorem instructionLines_newline (text : List Char) (is : List Instruction) :
    InstructionLines (Lines.split '\n' '\r' (text ++ ['\n'])) is ↔
      InstructionLines (Lines.split '\n' '\r' text) is := by
  obtain ⟨lines, last, hopen, hended⟩ := Lines.split_newline '\n' '\r' text
  have hlast : ∀ rest, InstructionLines [Lines.dropReturn '\r' last] rest ↔
      InstructionLines (if last.isEmpty then [] else [last]) rest := by
    intro rest
    cases last with
    | nil => exact instructionLines_cons_skipped (.inl (List.forall_mem_nil _)) rest
    | cons c last =>
      refine instructionLines_cons_congr ?_
      rw [instructionOn, instructionOn, trim_dropReturn]
  simp only [hopen, hended, instructionLines_append_iff, hlast]

theorem compile_eq_ok : compile name source = .ok script ↔
    ∃ text is, Utf8.decode? source = .ok text ∧ InstructionLines (Lines.ofText text) is ∧
      script = ⟨name, drafted is⟩ := by
  unfold compile
  cases Utf8.decode? source with
  | error flaw => exact iff_of_false nofun fun ⟨_, _, h, _⟩ => nomatch h
  | ok text =>
    refine parse_eq_ok.trans ⟨fun ⟨is, his, h⟩ => ⟨text, is, rfl, his, h⟩, ?_⟩
    rintro ⟨_, is, ⟨⟩, his, h⟩
    exact ⟨is, his, h⟩

/-- The last instruction of a source. -/
def EndsWith (source : Bytes) (i : Instruction) : Prop :=
  ∃ text is, Utf8.decode? source = .ok text ∧ InstructionLines (Lines.ofText text) (is ++ [i])

/-- **Behind an action or a count a source begins anew.** -/
theorem compile_joined {i : Instruction} (h₁ : compile name source₁ = .ok first)
    (h₂ : compile name source₂ = .ok second) (hlast : EndsWith source₁ i)
    (hi : i = .count ∨ ∃ s, i = .action s) :
    compile name (source₁ ++ LineBuffer.newline :: source₂) =
      .ok ⟨name, first.steps ++ second.steps⟩ := by
  obtain ⟨text₁, is₁, htext₁, his₁, rfl⟩ := compile_eq_ok.mp h₁
  obtain ⟨text₂, is₂, htext₂, his₂, rfl⟩ := compile_eq_ok.mp h₂
  obtain ⟨_, is, htext, his⟩ := hlast
  cases htext₁.symm.trans htext
  obtain rfl := his₁.unique his
  have hclosed : ¬ OpensChain (is ++ [i]) := by
    refine not_opensChain_concat ?_ ?_
    · rintro o rfl
      obtain h | ⟨s, h⟩ := hi <;> cases h
    · rintro rfl
      obtain h | ⟨s, h⟩ := hi <;> cases h
  have htext : Utf8.decode? (source₁ ++ LineBuffer.newline :: source₂) =
      .ok (String.ofList (text₁.toList ++ '\n' :: text₂.toList)) := by
    rw [Utf8.decode?_eq_ok] at htext₁ htext₂ ⊢
    rw [String.toList_ofList]
    exact htext₁.join (by decide) htext₂
  refine compile_eq_ok.mpr ⟨_, is ++ [i] ++ is₂, htext, ?_, ?_⟩
  · rw [Lines.ofText, String.toList_ofList, Lines.split_append_newline]
    exact ((instructionLines_newline _ _).mpr his).append his₂
  · rw [drafted_append hclosed]

/-! ## More steps behind -/

/-- Where a script stands that has more steps behind it; where it would end well it goes on with
them. -/
def State.followed (more : List Step) : State → State
  | .before steps files => .before (steps ++ more) files
  | .filtering filter rest files => .filtering filter (rest ++ more) files
  | .writing data files next => .writing data files (next.followed more)
  | .ended .done files => .before more files
  | .ended verdict files => .ended verdict files

/-- What such a script demands, from what it demands without the steps. -/
def followedDemand (inv : Invocation) (more : List Step) : Demand State → Demand State
  | .finish .done files => begin inv more files
  | d => d.map (State.followed more)

theorem followed_gotWrite (files : Snapshot) (next : State) (more : List Step)
    (got : Except Fault Unit) :
    (gotWrite files next got).followed more = gotWrite files (next.followed more) got := by
  cases got <;> rfl

theorem followed_close (f : Filter) (rest more : List Step) (files : Snapshot) :
    (f.close rest files).followed more = f.close (rest ++ more) files := by
  unfold Filter.close
  split <;> rfl

theorem followed_gotLine (f : Filter) (rest more : List Step) (files : Snapshot)
    (got : Except Fault (Option String)) :
    (f.gotLine rest files got).followed more = f.gotLine (rest ++ more) files got := by
  match got with
  | .error why => rfl
  | .ok none => exact followed_close f rest more files
  | .ok (some line) =>
    unfold Filter.gotLine
    dsimp only
    split
    · rfl
    · rfl
    · exact followed_close _ rest more _
    · split <;> split <;> simp only [State.followed, followed_close]

/-- **Steps behind others begin where these end well**, and have no part in what they do. -/
theorem begin_append (inv : Invocation) (steps more : List Step) (files : Snapshot) :
    begin inv (steps ++ more) files = followedDemand inv more (begin inv steps files) := by
  have hwrite : ∀ (rest : List Step) files got, gotWrite files (.before (rest ++ more) files) got =
      (gotWrite files (.before rest files) got).followed more := fun rest files got =>
    (followed_gotWrite files (.before rest files) more got).symm
  induction steps generalizing files with
  | nil => rfl
  | cons step rest ih =>
    rw [List.cons_append]
    cases step with
    | emit text => exact congrArg (Demand.write _) (funext (hwrite rest files))
    | read path =>
      simp only [begin]
      split
      · exact congrArg (Demand.write _) (funext (hwrite rest files))
      · rfl
    | write path text =>
      simp only [begin]
      split
      · exact ih _
      · rfl
    | fail message => rfl
    | filter chain count =>
      simp only [begin]
      split
      · rename_i filter files' _
        exact congrArg Demand.line
          (funext fun got => (followed_gotLine filter rest more files' got).symm)
      · rfl

theorem demand_followed (inv : Invocation) (more : List Step) (s : State) :
    (s.followed more).demand inv = followedDemand inv more (s.demand inv) := by
  cases s with
  | before steps files => exact begin_append inv steps more files
  | filtering filter rest files =>
    exact congrArg Demand.line
      (funext fun got => (followed_gotLine filter rest more files got).symm)
  | writing data files next =>
    exact congrArg (Demand.write _)
      (funext fun got => (followed_gotWrite files next more got).symm)
  | ended verdict files => cases verdict <;> rfl

namespace Run

/-- A running script with more steps behind it. -/
def followed (more : List Step) (run : Run) : Run := ⟨run.inv, run.state.followed more⟩

/-- Short of its end a script does not look at the steps behind it. -/
theorem demand_followed {run : Run} (h : ∀ files, run.demand ≠ .finish .done files)
    (more : List Step) : (run.followed more).demand = run.demand.map (followed more) := by
  have hstand : ∀ files, run.state.demand run.inv ≠ .finish .done files := fun files heq =>
    h files (congrArg (Demand.map (Run.mk run.inv)) heq)
  rw [demand, demand, followed, Script.demand_followed]
  cases hdemand : run.state.demand run.inv with
  | finish verdict files =>
    cases verdict with
    | done => exact absurd hdemand (hstand files)
    | _ => rfl
  | _ => rfl

theorem demand_followed_done {run : Run} (h : run.demand = .finish .done files)
    (more : List Step) : (run.followed more).demand = (Run.mk run.inv (.before more files)).demand := by
  have hstand : run.state.demand run.inv = .finish .done files := by
    rw [demand] at h
    cases hdemand : run.state.demand run.inv with
    | finish verdict files' =>
      rw [hdemand] at h
      cases h
      rfl
    | _ =>
      rw [hdemand] at h
      cases h
  rw [demand, demand, followed, Script.demand_followed, hstand]
  rfl

/-- The same script as if it had been started with other files. -/
def given (files : Snapshot) (run : Run) : Run := ⟨{ run.inv with files }, run.state⟩

end Run

/-! ## Other files at the start -/

theorem begin_files (inv : Invocation) (files : Snapshot) (steps : List Step) (now : Snapshot) :
    begin { inv with files } steps now = begin inv steps now := by
  have hexpand : expand { inv with files } = expand inv :=
    expand_files inv.args inv.env files inv.files
  have hready : Op.ready { inv with files } = Op.ready inv := funext (ready_files inv.args inv.env)
  induction steps generalizing now with
  | nil => rfl
  | cons step rest ih => cases step <;> simp only [begin, Filter.start, hexpand, hready, ih]

/-- The files that a script was started with have no part in what it demands later. -/
theorem Run.demand_given (files : Snapshot) (run : Run) :
    (run.given files).demand = run.demand.map (Run.given files) := by
  have hstand : run.state.demand { run.inv with files } = run.state.demand run.inv := by
    cases run.state with
    | before steps now => exact begin_files run.inv files steps now
    | _ => rfl
  rw [demand, demand, given, hstand]
  cases run.state.demand run.inv <;> rfl

/-- A script keeps what it was started with. -/
theorem inv_of_reaches (h : r.Reaches t r' t') : Run.inv t'.state = Run.inv t.state := by
  refine h.invariant (Q := fun _ (t' : Task Script) => Run.inv t'.state = Run.inv t.state) rfl
    fun {r₁ t₁ r₂ t₂} hinv hstep => ?_
  have honly : t₁.act.Preserves (fun run : Run => run.inv = Run.inv t.state) fun _ => True := by
    refine Task.act_preserves hinv (Demand.preserves_map.mpr ?_)
    cases State.demand (Run.inv t₁.state) (Run.state t₁.state) with
    | finish => trivial
    | _ => exact fun _ => hinv
  have htakes := Rehearsal.step?_eq_some.mp hstep
  generalize t₁.act = act at htakes honly
  cases htakes with
  | silent => exact honly
  | read limit answer => exact honly _
  | write data answer => exact honly _

/-! ## One script and then the other -/

/-- A task of a script with more steps behind it. -/
def followedTask (more : List Step) (t : Task Script) : Task Script :=
  Task.moved (P := Script) (Run.followed more) t

/-- **Wherever a script comes to, it comes there with more steps behind it.** -/
theorem reaches_followed (h : r.Reaches t r' t') (more : List Step) :
    r.Reaches (followedTask more t) r' (followedTask more t') := by
  refine h.invariant (Q := fun r' t' => r.Reaches (followedTask more t) r' (followedTask more t'))
    Relation.ReflTransGen.refl fun {r₁ t₁ r₂ t₂} hcomes hstep => ?_
  have hopen : ∀ files, Run.demand t₁.state ≠ .finish .done files := by
    intro files hdone
    have hdemand : Program.demand t₁.state = .finish .done files := hdone
    have hact : t₁.act = .finish .done files := by rw [Task.act, hdemand]
    rw [Rehearsal.step?_eq_some, hact] at hstep
    cases hstep
  exact hcomes.tail (Rehearsal.step?_moved (Task.act_moved (Run.demand_followed hopen more)) hstep)

/-- A script that fails does so with any steps behind it. -/
theorem act_followed {verdict : Verdict} (hact : t.act = .finish verdict files)
    (hfails : verdict ≠ .done) (more : List Step) :
    (followedTask more t).act = .finish verdict files := by
  have hdemand : Run.demand t.state = .finish verdict files := Task.finish_demands hact
  have hopen : ∀ files, Run.demand t.state ≠ .finish .done files := by
    intro files' hdone
    cases hdemand.symm.trans hdone
    exact hfails rfl
  have hmoved := Task.act_moved (t := t) (Run.demand_followed hopen more)
  rw [hact] at hmoved
  exact hmoved

/-- A script that ends well goes on with the steps behind it as the script of these does that is
started there. -/
theorem ends_followed (hact : t.act = .finish .done files) (second : Script)
    (h : r.Ends (followedTask second.steps t) result) :
    r.Ends { t with state := Program.start second { Run.inv t.state with files } } result := by
  obtain ⟨fuel, h⟩ := h
  refine ⟨fuel, ?_⟩
  have hdone : Program.demand (P := Script) (Run.followed second.steps t.state) =
      Program.demand (P := Script) (Run.mk (Run.inv t.state) (.before second.steps files)) :=
    Run.demand_followed_done (Task.finish_demands hact) second.steps
  have hsame := Rehearsal.perform_demand hdone r fuel t.lines t.gathered
  have hgiven := Rehearsal.perform_moved (P := Script) (Run.demand_given files) r fuel
    ⟨Run.mk (Run.inv t.state) (.before second.steps files), t.lines, t.gathered⟩
  exact hgiven.trans (hsame.symm.trans h)

/-- How a script goes that has the steps of two. -/
inductive ComposeSpec (first second : Script) (inv : Invocation) (r : Rehearsal) :
    Verdict × Snapshot × Rehearsal → Prop where
  /-- Where the first does not end well nothing of the second happens. -/
  | failed {verdict : Verdict} {files : Snapshot} {after : Rehearsal}
      (hfirst : first.rehearse inv r = some (verdict, files, after)) (hfails : verdict ≠ .done) :
      ComposeSpec first second inv r (verdict, files, after)
  /-- The second is started with the files that the first leaves, on the lines that it holds and the
  input that it has not read, and its writes come behind. -/
  | passed {files files' : Snapshot} {after after' : Rehearsal} {last : Task Script}
      {verdict : Verdict} (hfirst : first.rehearse inv r = some (.done, files, after))
      (hcomes : r.Reaches (Task.start first inv) after last)
      (hlast : last.act = .finish .done files)
      (hsecond : Rehearsal.Ends { after with written := [] }
        { last with state := Program.start second { inv with files } } (verdict, files', after')) :
      ComposeSpec first second inv r (verdict, files', after'.behind after.written)

theorem rehearse_eq_some :
    script.rehearse inv r = some result ↔ r.Ends (Task.start script inv) result := by
  refine ⟨fun h => ⟨_, h⟩, fun h => ?_⟩
  obtain ⟨ended, hended⟩ := script.rehearse_ends inv r
  rw [hended, Rehearsal.Ends.unique ⟨_, hended⟩ h]

/-- **The steps of two scripts go as the one script and then the other.** -/
theorem rehearse_in_turn (first second : Script) (name : String) (inv : Invocation)
    (r : Rehearsal) : ∃ result, rehearse ⟨name, first.steps ++ second.steps⟩ inv r = some result ∧
      ComposeSpec first second inv r result := by
  obtain ⟨⟨verdict, files, after⟩, hfirst⟩ := first.rehearse_ends inv r
  obtain ⟨last, hcomes, hlast⟩ := Rehearsal.reaches_of_perform hfirst
  have hfollowed := reaches_followed hcomes second.steps
  by_cases hdone : verdict = .done
  · subst hdone
    obtain ⟨⟨verdict, files', ended⟩, hwhole⟩ :=
      rehearse_ends ⟨name, first.steps ++ second.steps⟩ inv r
    have hrest := ends_followed hlast second
      (hfollowed.ends_iff.mp (rehearse_eq_some.mp hwhole))
    rw [inv_of_reaches hcomes] at hrest
    obtain ⟨fuel, hrest⟩ := hrest
    -- what was written before has no part in it
    have hbehind := Rehearsal.perform_behind { after with written := [] } after.written fuel
      { last with state := Program.start second { inv with files } }
    obtain ⟨⟨verdict', files'', after'⟩, hsecond, hended⟩ :=
      Option.map_eq_some_iff.mp (hbehind.symm.trans hrest)
    cases hended
    exact ⟨_, hwhole, .passed hfirst hcomes hlast ⟨fuel, hsecond⟩⟩
  · refine ⟨_, rehearse_eq_some.mpr (hfollowed.ends_iff.mpr ?_), .failed hfirst hdone⟩
    exact Rehearsal.ends_finish (act_followed hlast hdone second.steps) after

/-! ## Scripts without filters -/

theorem readsInput_eq_false : script.readsInput = false ↔
    ∀ chain count, .filter chain count ∉ script.steps := by
  rw [readsInput, List.any_eq_false]
  constructor
  · intro h chain count hmem
    exact h _ hmem rfl
  · intro h step hmem
    cases step with
    | filter chain count => exact absurd hmem (h chain count)
    | _ => exact Bool.false_ne_true

/-- No filter is at work in a script, and none is before it. -/
def State.Unfiltered : State → Prop
  | .before steps _ => ∀ chain count, .filter chain count ∉ steps
  | .filtering .. => False
  | .writing _ _ next => next.Unfiltered
  | .ended .. => True

/-- Nothing is demanded but to write or to end, and that keeps `Q`. -/
def WritesOnly {σ : Type} (Q : σ → Prop) : Demand σ → Prop
  | .write _ answer => ∀ got, Q (answer got)
  | .finish .. => True
  | _ => False

theorem WritesOnly.preserves {σ : Type} {Q : σ → Prop} {d : Demand σ} (h : WritesOnly Q d) :
    d.Preserves Q fun _ => True := by
  cases d with
  | write => exact h
  | finish => trivial
  | _ => exact h.elim

theorem gotWrite_unfiltered {next : State} (h : next.Unfiltered) (files : Snapshot)
    (got : Except Fault Unit) : (gotWrite files next got).Unfiltered := by
  cases got with
  | ok => exact h
  | error why => trivial

theorem begin_unfiltered (inv : Invocation) (h : ∀ chain count, .filter chain count ∉ steps)
    (files : Snapshot) : WritesOnly State.Unfiltered (begin inv steps files) := by
  induction steps generalizing files with
  | nil => trivial
  | cons step rest ih =>
    have hrest : ∀ files, (State.before rest files).Unfiltered := fun _ chain count hmem =>
      h chain count (List.mem_cons_of_mem step hmem)
    cases step with
    | emit text => exact gotWrite_unfiltered (hrest files) files
    | read path =>
      simp only [begin]
      split
      · exact gotWrite_unfiltered (hrest files) files
      · trivial
    | write path text =>
      simp only [begin]
      split
      · exact ih (hrest files) _
      · trivial
    | fail message => trivial
    | filter chain count => exact absurd List.mem_cons_self (h chain count)

theorem State.Unfiltered.demand {s : State} (h : s.Unfiltered) (inv : Invocation) :
    WritesOnly State.Unfiltered (s.demand inv) := by
  cases s with
  | before steps files => exact begin_unfiltered inv h files
  | filtering => exact h.elim
  | writing data files next =>
    have hnext : next.Unfiltered := h
    exact gotWrite_unfiltered hnext files
  | ended => trivial

/-- **A script without filters never reads**, whatever becomes of its writes. -/
theorem reads_nothing (h : script.readsInput = false)
    (hleads : Task.Reaches (.start script inv) t) (limit : Nat)
    (answer : Except Fault Bytes → Task Script) : t.act ≠ .read limit answer := by
  have hstate : (Run.state t.state).Unfiltered := by
    refine hleads.invariant (Q := fun run : Run => run.state.Unfiltered) (F := fun _ => True) ?_
      (readsInput_eq_false.mp h)
    intro run hrun
    exact Demand.preserves_map.mpr (hrun.demand run.inv).preserves
  have hwrites := hstate.demand (Run.inv t.state)
  have hrun : Program.demand t.state =
    (State.demand (Run.inv t.state) (Run.state t.state)).map (Run.mk (Run.inv t.state)) := rfl
  intro hact
  rw [Task.act, hrun] at hact
  cases hdemand : State.demand (Run.inv t.state) (Run.state t.state) with
  | write data answer =>
    rw [hdemand] at hact
    cases hact
  | finish verdict files =>
    rw [hdemand] at hact
    cases hact
  | _ =>
    rw [hdemand] at hwrites
    exact hwrites.elim

/-- Actions are drafted as they stand. -/
theorem foldl_actions (steps done : List Step) :
    (steps.map .action).foldl Draft.add ⟨done, []⟩ = ⟨steps.reverse ++ done, []⟩ := by
  induction steps generalizing done with
  | nil => rfl
  | cons step steps ih =>
    have hstep : Draft.add ⟨done, []⟩ (.action step) = ⟨step :: done, []⟩ := rfl
    rw [List.map_cons, List.foldl_cons, hstep, ih, List.reverse_cons, List.append_assoc]
    rfl

theorem drafted_actions (steps : List Step) : drafted (steps.map .action) = steps := by
  rw [drafted, Draft.empty, foldl_actions]
  simp [Draft.flush]

/-- A source has no filter instruction: all that it says are actions. -/
def ActsOnly (source : Bytes) : Prop :=
  ∃ text is, Utf8.decode? source = .ok text ∧ InstructionLines (Lines.ofText text) is ∧
    ∀ i ∈ is, ∃ s, i = .action s

theorem ActsOnly.readsInput (h : ActsOnly source) (hcompile : compile name source = .ok script) :
    script.readsInput = false := by
  obtain ⟨text, is, htext, his, rfl⟩ := compile_eq_ok.mp hcompile
  obtain ⟨_, _, htext', his', hactions⟩ := h
  cases htext.symm.trans htext'
  obtain rfl := his.unique his'
  obtain ⟨steps, hsteps⟩ := exists_forall₂_iff.mpr hactions
  obtain rfl : is = steps.map .action := by
    rwa [← List.forall₂_eq_eq_eq, List.forall₂_map_right_iff]
  refine readsInput_eq_false.mpr fun chain count hmem => ?_
  rw [drafted_actions] at hmem
  exact his.action (List.mem_map_of_mem hmem) chain count rfl

/-- **Scripts compose one after the other.** Where the first of two sources ends with an action or
with a count, the two with a newline between them compile to the steps of the one and then those of
the other. These go, on any input and whatever reads and writes fail, as the one script does and
then, if it ends well, as the other does on what is left. A source without filter instructions
compiles to a script that never reads. -/
theorem composes_in_turn (name : String) :
    (∀ source₁ source₂ first second i, compile name source₁ = .ok first →
      compile name source₂ = .ok second → EndsWith source₁ i →
        (i = .count ∨ ∃ s, i = .action s) →
          ∃ script, compile name (source₁ ++ LineBuffer.newline :: source₂) = .ok script ∧
            script.steps = first.steps ++ second.steps ∧
            ∀ inv r, ∃ result, script.rehearse inv r = some result ∧
              ComposeSpec first second inv r result) ∧
    ∀ source script, compile name source = .ok script → ActsOnly source →
      script.readsInput = false ∧ ∀ inv t, Task.Reaches (.start script inv) t →
        ∀ limit answer, t.act ≠ .read limit answer := by
  refine ⟨fun source₁ source₂ first second i h₁ h₂ hlast hi => ?_,
    fun source script h hactions => ?_⟩
  · exact ⟨_, compile_joined h₁ h₂ hlast hi, rfl, rehearse_in_turn first second name⟩
  · have hreads := hactions.readsInput h
    exact ⟨hreads, fun inv t hleads => reads_nothing hreads hleads⟩

/-- One line is counted, and the lines behind it are copied. -/
theorem composes_in_turn_counted :
    EndsWith (Utf8.encode "head 1\ncount") .count ∧
    (∃ script, compile "s" (Utf8.encode "head 1\ncount" ++ LineBuffer.newline :: Utf8.encode "cat") =
        .ok script ∧ script.steps = [.filter [.head 1] true] ++ [.filter [] false] ∧
        ∀ inv r, ∃ result, script.rehearse inv r = some result ∧
          ComposeSpec ⟨"s", [.filter [.head 1] true]⟩ ⟨"s", [.filter [] false]⟩ inv r result) ∧
    ActsOnly (Utf8.encode "emit a") ∧ readsInput ⟨"s", [.emit "a"]⟩ = false := by
  obtain ⟨hjoined, hunread⟩ := composes_in_turn "s"
  have hfirst : compile "s" (Utf8.encode "head 1\ncount") = .ok ⟨"s", [.filter [.head 1] true]⟩ := rfl
  have hsecond : compile "s" (Utf8.encode "cat") = .ok ⟨"s", [.filter [] false]⟩ := rfl
  have hemit : compile "s" (Utf8.encode "emit a") = .ok ⟨"s", [.emit "a"]⟩ := rfl
  have hlast : EndsWith (Utf8.encode "head 1\ncount") .count :=
    ⟨"head 1\ncount", [.op (.head 1)], rfl, .cons rfl (.cons rfl .nil)⟩
  have hactions : ActsOnly (Utf8.encode "emit a") :=
    ⟨"emit a", [.action (.emit "a")], rfl, .cons rfl .nil,
      List.forall_mem_singleton.mpr ⟨_, rfl⟩⟩
  exact ⟨hlast, hjoined _ _ _ _ _ hfirst hsecond hlast (.inl rfl), hactions,
    (hunread _ _ hemit hactions).1⟩

example : rehearse ⟨"s", [.filter [.head 1] true, .filter [] false]⟩ ⟨["s"], [], .null⟩
    (.ofPieces [Utf8.encode "a\nb\nc\n"] none none) =
      some (.done, .null, ⟨[], none, none, 2, 6, 3, [textLine "c", textLine "b", textLine "1"]⟩) :=
  rfl

end Script

end Pipework
