import Pipework.Proofs.Lines
import Pipework.Script.Compile

/-!
# Sources of scripts

A source is read line by line. What a line says does not depend on where it stands
(`instructionOn_place`), so a source compiles exactly when its lines are instructions, blank or comments, and
then to what these instructions draft one after another (`parse_eq_ok`).

* `Draft.add_frame` — steps that are finished stay what they are.
* `parse_fused` — filter instructions on both sides of a seam form one chain.
-/

namespace Pipework

namespace Script

/-! ## What a line says -/

/-- The instruction on a line, or none if it is blank or a comment. -/
def instructionOn (place : String) (line : List Char) : Except Fault (Option Instruction) :=
  let line := Blank.trimEnd (Blank.trimStart line)
  if line.isEmpty || line.head? == some '#' then .ok none
  else (instruction place (splitWord line).1 (splitWord line).2).map some

theorem readLines_cons (name : String) (number : Nat) (d : Draft) (line : List Char)
    (rest : List (List Char)) : readLines name number d (line :: rest) =
      match instructionOn s!"{name}: line {number}" line with
      | .ok none => readLines name (number + 1) d rest
      | .ok (some i) => readLines name (number + 1) (d.add i) rest
      | .error fault => .error fault := by
  rw [readLines, instructionOn]
  dsimp only
  split
  · rfl
  · cases instruction s!"{name}: line {number}" _ _ <;> rfl

/-- Where an instruction stands shows in messages alone. -/
theorem instruction_place {place word : String} {rest : List Char} {i : Instruction}
    (h : instruction place word rest = .ok i) (place' : String) :
    instruction place' word rest = .ok i := by
  have hoption : ∀ r : Except Fault Instruction, r = .ok i ↔ r.toOption = some i :=
    fun r => by cases r <;> simp [Except.toOption]
  rw [hoption] at h ⊢
  rw [← h]
  unfold instruction
  split <;> dsimp only <;> first | rfl | (split <;> rfl)

theorem instructionOn_place {place : String} {line : List Char} {said : Option Instruction}
    (h : instructionOn place line = .ok said) (place' : String) : instructionOn place' line = .ok said := by
  unfold instructionOn at h ⊢
  dsimp only at h ⊢
  split at h
  · rename_i hblank
    rw [if_pos hblank]
    exact h
  · rename_i hplain
    rw [if_neg hplain]
    cases hi : instruction place _ _ with
    | error fault =>
      rw [hi] at h
      cases h
    | ok i =>
      rw [hi] at h
      rw [instruction_place hi place']
      exact h

/-- Filters are drafted, not read. -/
theorem instruction_action {place word : String} {rest : List Char} {s : Step}
    (h : instruction place word rest = .ok (.action s)) (chain : List Op) (count : Bool) :
    s ≠ .filter chain count := by
  rintro rfl
  unfold instruction at h
  split at h <;> dsimp only at h <;> first | cases h | (split at h <;> cases h)

/-- The lines are instructions but for those that are blank or comments. -/
inductive InstructionLines : List (List Char) → List Instruction → Prop where
  | nil : InstructionLines [] []
  | blank {line : List Char} {lines : List (List Char)} {is : List Instruction} :
      instructionOn "" line = .ok none → InstructionLines lines is →
        InstructionLines (line :: lines) is
  | cons {line : List Char} {lines : List (List Char)} {i : Instruction}
      {is : List Instruction} : instructionOn "" line = .ok (some i) → InstructionLines lines is →
        InstructionLines (line :: lines) (i :: is)

theorem InstructionLines.append {lines lines' : List (List Char)} {is is' : List Instruction}
    (h : InstructionLines lines is) (h' : InstructionLines lines' is') :
    InstructionLines (lines ++ lines') (is ++ is') := by
  induction h with
  | nil => exact h'
  | blank hline _ ih => exact .blank hline ih
  | cons hline _ ih => exact .cons hline ih

theorem instructionLines_append_iff {lines lines' : List (List Char)} {is : List Instruction} :
    InstructionLines (lines ++ lines') is ↔
      ∃ front rest, InstructionLines lines front ∧ InstructionLines lines' rest ∧
      is = front ++ rest := by
  refine ⟨fun h => ?_, fun ⟨front, rest, hfront, hrest, his⟩ => his ▸ hfront.append hrest⟩
  induction lines generalizing is with
  | nil => exact ⟨[], is, .nil, h, rfl⟩
  | cons line lines ih =>
    cases h with
    | blank hline h =>
      obtain ⟨front, rest, hfront, hrest, his⟩ := ih h
      exact ⟨front, rest, .blank hline hfront, hrest, his⟩
    | cons hline h =>
      obtain ⟨front, rest, hfront, hrest, rfl⟩ := ih h
      exact ⟨_ :: front, rest, .cons hline hfront, hrest, rfl⟩

theorem instructionLines_cons_congr {line line' : List Char}
    (h : instructionOn "" line' = instructionOn "" line) {lines : List (List Char)}
    {is : List Instruction} :
    InstructionLines (line' :: lines) is ↔ InstructionLines (line :: lines) is := by
  constructor
  · intro his
    cases his with
    | blank hline his => exact .blank (h ▸ hline) his
    | cons hline his => exact .cons (h ▸ hline) his
  · intro his
    cases his with
    | blank hline his => exact .blank (h.trans hline) his
    | cons hline his => exact .cons (h.trans hline) his

theorem InstructionLines.unique {lines : List (List Char)} {is is' : List Instruction}
    (h : InstructionLines lines is) (h' : InstructionLines lines is') : is = is' := by
  induction h generalizing is' with
  | nil =>
    cases h'
    rfl
  | blank hline _ ih =>
    cases h' with
    | blank _ h' => exact ih h'
    | cons hline' _ => cases hline.symm.trans hline'
  | cons hline _ ih =>
    cases h' with
    | blank hline' _ => cases hline.symm.trans hline'
    | cons hline' h' =>
      cases hline.symm.trans hline'
      rw [ih h']

theorem InstructionLines.action {lines : List (List Char)} {is : List Instruction}
    (h : InstructionLines lines is) {s : Step} (hs : .action s ∈ is) (chain : List Op)
    (count : Bool) : s ≠ .filter chain count := by
  induction h with
  | nil => cases hs
  | blank _ _ ih => exact ih hs
  | @cons line _ i _ hline _ ih =>
    rcases List.mem_cons.mp hs with rfl | hs
    · unfold instructionOn at hline
      dsimp only at hline
      split at hline
      · cases hline
      · cases hi : instruction "" _ _ with
        | error fault =>
          rw [hi] at hline
          cases hline
        | ok i =>
          rw [hi] at hline
          cases hline
          exact instruction_action hi chain count
    · exact ih hs

/-- **A source is read exactly when its lines are instructions**, which are drafted in order. -/
theorem readLines_eq_ok {name : String} {number : Nat} {d d' : Draft} {lines : List (List Char)} :
    readLines name number d lines = .ok d' ↔
      ∃ is, InstructionLines lines is ∧ d' = is.foldl Draft.add d := by
  induction lines generalizing number d with
  | nil =>
    rw [readLines]
    refine ⟨fun h => ⟨[], .nil, (Except.ok.inj h).symm⟩, fun ⟨is, his, hd⟩ => ?_⟩
    cases his
    rw [hd]
    rfl
  | cons line rest ih =>
    rw [readLines_cons]
    cases hline : instructionOn s!"{name}: line {number}" line with
    | error fault =>
      refine iff_of_false nofun fun ⟨is, his, _⟩ => ?_
      cases his with
      | blank hline' => cases hline.symm.trans (instructionOn_place hline' _)
      | cons hline' => cases hline.symm.trans (instructionOn_place hline' _)
    | ok said =>
      cases said with
      | none =>
        refine ih.trans ⟨fun ⟨is, his, hd⟩ => ⟨is, .blank (instructionOn_place hline "") his, hd⟩,
          fun ⟨is, his, hd⟩ => ?_⟩
        cases his with
        | blank _ his => exact ⟨_, his, hd⟩
        | cons hline' => cases hline.symm.trans (instructionOn_place hline' _)
      | some i =>
        refine ih.trans
          ⟨fun ⟨is, his, hd⟩ => ⟨i :: is, .cons (instructionOn_place hline "") his, hd⟩,
          fun ⟨is, his, hd⟩ => ?_⟩
        cases his with
        | blank hline' => cases hline.symm.trans (instructionOn_place hline' _)
        | cons hline' his =>
          cases hline.symm.trans (instructionOn_place hline' _)
          exact ⟨_, his, hd⟩

theorem parse_eq_ok {name source : String} {script : Script} :
    parse name source = .ok script ↔ ∃ is, InstructionLines (Lines.ofText source) is ∧
      script = ⟨name, (is.foldl Draft.add .empty).flush.steps.reverse⟩ := by
  rw [parse]
  cases hread : readLines name 1 .empty (Lines.ofText source) with
  | error fault =>
    refine iff_of_false nofun fun ⟨is, his, _⟩ => ?_
    cases hread.symm.trans (readLines_eq_ok.mpr ⟨is, his, rfl⟩)
  | ok d =>
    obtain ⟨is, his, hd⟩ := readLines_eq_ok.mp hread
    refine ⟨fun h => ⟨is, his, hd ▸ (Except.ok.inj h).symm⟩, fun ⟨is', his', hscript⟩ => ?_⟩
    cases hread.symm.trans (readLines_eq_ok.mpr ⟨is', his', rfl⟩)
    rw [hscript]

/-! ## Drafts -/

namespace Draft

variable {is : List Instruction} {chain further : List Op} {count : Bool}

theorem flush_frame (d : Draft) (done : List Step) :
    (flush ⟨d.steps ++ done, d.chain⟩) = ⟨d.flush.steps ++ done, d.flush.chain⟩ := by
  unfold flush
  dsimp only
  split <;> rfl

theorem add_frame (d : Draft) (done : List Step) (i : Instruction) :
    add ⟨d.steps ++ done, d.chain⟩ i = ⟨(d.add i).steps ++ done, (d.add i).chain⟩ := by
  cases i with
  | op o => rfl
  | cat =>
    unfold add
    dsimp only
    split <;> rfl
  | count => rfl
  | action s =>
    simp only [add, flush_frame]
    rfl

/-- **Steps that are finished stay what they are**, and nothing depends on them. -/
theorem foldl_frame (is : List Instruction) (d : Draft) (done : List Step) :
    is.foldl add ⟨d.steps ++ done, d.chain⟩ =
      ⟨(is.foldl add d).steps ++ done, (is.foldl add d).chain⟩ := by
  induction is generalizing d with
  | nil => rfl
  | cons i rest ih =>
    rw [List.foldl_cons, List.foldl_cons, add_frame]
    exact ih (d.add i)

/-- The steps drafted behind those that are finished. -/
theorem steps_behind (is : List Instruction) (done : List Step) (chain : List Op) :
    (is.foldl add ⟨done, chain⟩).flush.steps =
      (is.foldl add ⟨[], chain⟩).flush.steps ++ done := by
  have hframe := foldl_frame is ⟨[], chain⟩ done
  rw [List.nil_append] at hframe
  rw [hframe, flush_frame]

/-- A finished step is the only one if only one is drafted in all. -/
theorem finished_single {is : List Instruction} {done step : Step}
    (h : (is.foldl add ⟨[done], chain⟩).flush.steps = [step]) :
    done = step ∧ (is.foldl add ⟨[], chain⟩).flush.steps = [] := by
  rw [steps_behind] at h
  rcases List.append_eq_singleton_iff.mp h with ⟨hnone, hdone⟩ | ⟨-, hdone⟩
  · exact ⟨List.singleton_inj.mp hdone, hnone⟩
  · cases hdone

/-- **Instructions that come to one chain extend a chain that is open before them**, and leave it
open unless they count. -/
theorem single_chain (hactions : ∀ s, .action s ∈ is → ∀ chain count, s ≠ .filter chain count)
    (hchain : chain ≠ [])
    (h : (is.foldl add ⟨[], further⟩).flush.steps = [.filter chain count]) :
    (count = false → is.foldl add ⟨[], further⟩ = ⟨[], chain.reverse⟩) ∧
      ∀ before, (is.foldl add ⟨[], further ++ before⟩).flush.steps =
        [.filter (before.reverse ++ chain) count] := by
  induction is generalizing further with
  | nil =>
    cases further with
    | nil => cases h
    | cons o further =>
      cases h
      exact ⟨fun _ => by rw [List.reverse_reverse]; rfl, fun before => by simp [flush]⟩
  | cons i rest ih =>
    have hrest : ∀ s, .action s ∈ rest → ∀ chain count, s ≠ .filter chain count :=
      fun s hs => hactions s (List.mem_cons_of_mem i hs)
    cases i with
    | op o => exact ih hrest h
    | cat =>
      cases further with
      | nil =>
        have hbehind : (rest.foldl add ⟨[.filter [] false], []⟩).flush.steps =
          [.filter chain count] := h
        cases (finished_single hbehind).1
        exact absurd rfl hchain
      | cons o further => exact ih hrest h
    | count =>
      have hbehind : (rest.foldl add ⟨[.filter further.reverse true], []⟩).flush.steps =
        [.filter chain count] := h
      obtain ⟨hstep, hnone⟩ := finished_single hbehind
      cases hstep
      refine ⟨nofun, fun before => ?_⟩
      show (rest.foldl add ⟨[.filter (further ++ before).reverse true], []⟩).flush.steps = _
      rw [steps_behind, hnone, List.reverse_append]
      rfl
    | action s =>
      cases further with
      | nil =>
        have hbehind : (rest.foldl add ⟨[s], []⟩).flush.steps = [.filter chain count] := h
        exact absurd (finished_single hbehind).1 (hactions s List.mem_cons_self chain count)
      | cons o further =>
        have hbehind : (rest.foldl add
          ⟨[s, .filter (o :: further).reverse false], []⟩).flush.steps = [.filter chain count] := h
        have hlength := congrArg List.length hbehind
        rw [steps_behind, List.length_append] at hlength
        simp at hlength

end Draft

theorem parse_single {name source : String} {step : Step}
    (h : parse name source = .ok ⟨name, [step]⟩) :
    ∃ is, InstructionLines (Lines.ofText source) is ∧
      (is.foldl Draft.add ⟨[], []⟩).flush.steps = [step] := by
  obtain ⟨is, his, hscript⟩ := parse_eq_ok.mp h
  exact ⟨is, his, List.reverse_eq_iff.mp (congrArg Script.steps hscript).symm⟩

/-- **Instructions of two chains that stand behind each other are one chain.** -/
theorem parse_fused {name front rest : String} {first second : List Op} {count : Bool}
    (hfirst : first ≠ []) (hsecond : second ≠ [])
    (h : parse name (front ++ "\n") = .ok ⟨name, [.filter first false]⟩)
    (h' : parse name rest = .ok ⟨name, [.filter second count]⟩) :
    parse name (front ++ "\n" ++ rest) = .ok ⟨name, [.filter (first ++ second) count]⟩ := by
  obtain ⟨is, his, hsteps⟩ := parse_single h
  obtain ⟨is', his', hsteps'⟩ := parse_single h'
  have hseam : Lines.ofText (front ++ "\n" ++ rest) =
      Lines.ofText (front ++ "\n") ++ Lines.ofText rest := by
    simpa [Lines.ofText] using Lines.split_append_newline front.toList rest.toList
  obtain ⟨hopen, -⟩ := Draft.single_chain (fun s => his.action) hfirst hsteps
  obtain ⟨-, hextended⟩ := Draft.single_chain (fun s => his'.action) hsecond hsteps'
  refine parse_eq_ok.mpr ⟨is ++ is', hseam ▸ his.append his', ?_⟩
  rw [List.foldl_append]
  show _ = Script.mk name (is'.foldl Draft.add (is.foldl Draft.add ⟨[], []⟩)).flush.steps.reverse
  have hfused := hextended first.reverse
  rw [List.nil_append, List.reverse_reverse] at hfused
  rw [hopen rfl, hfused]
  rfl

end Script

end Pipework
