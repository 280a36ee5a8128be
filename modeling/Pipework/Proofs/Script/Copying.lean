import Pipework.Proofs.Script.Sharing
import Pipework.Proofs.Script.Sources

/-!
# Copying between filter instructions

What a line with `cat` adds to a script depends on where it stands (`cat_joins_or_copies`). Where an
operation stands before it the chain is open and takes the line in: the script is the same. Where no
chain is open the line is a filter of its own. It copies all that is left of the input, and the
filters behind it, those of the very next line too, find an input at its end.

* `stepsPass_copy` — the filter without operations, by induction on the input that is left.
* `OpensChain` — where a chain is open (`Draft.chain_foldl_ne_nil`).
* `drafted_cat_open`, `drafted_append`, `drafted_cat` — the steps of a source with and without the
  line.
* `CopySpec` — the two yields side by side.
-/

namespace Pipework

namespace Script

variable {inv : Invocation} {is is' : List Instruction}

/-! ## The filter that copies -/

/-- A filter without operations that let some lines through lets through the others, to the end. -/
theorem denotes_copying (inv : Invocation) (passed : Nat) (more : List Step) (files : Snapshot)
    (input : Bytes) (y : Yield) :
    (State.filtering ⟨[], false, passed⟩ more files).Denotes inv input y ↔
      ∃ y', (State.before more files).Denotes inv [] y' ∧
        y = y'.after ((LineBuffer.lines input).map textLine) := by
  induction hlength : input.length using Nat.strongRecOn generalizing input passed y with
  | _ length ih =>
  subst hlength
  rw [denotes_filtering]
  have hlines := LineBuffer.lines_front input
  have hleft := LineBuffer.front_left input
  rcases hfront : LineBuffer.front input with ⟨line?, left⟩
  rw [hfront] at hlines hleft
  cases line? with
  | none =>
    obtain ⟨rfl, rfl⟩ := hleft
    exact denotes_close [] passed more files [] y
  | some line =>
    have hwriting : Filter.gotLine ⟨[], false, passed⟩ more files (.ok (some line)) =
        .writing (textLine line) files (.filtering ⟨[], false, passed + 1⟩ more files) := rfl
    have hfirst : LineBuffer.lines input = line :: LineBuffer.lines left := hlines
    rw [hwriting, denotes_writing, hfirst]
    constructor
    · rintro ⟨y₁, hy₁, rfl⟩
      obtain ⟨y', hy', rfl⟩ := (ih _ hleft _ left y₁ rfl).mp hy₁
      exact ⟨y', hy', Yield.after_after ..⟩
    · rintro ⟨y', hy', rfl⟩
      exact ⟨_, (ih _ hleft _ left _ rfl).mpr ⟨y', hy', rfl⟩,
        (Yield.after_after [textLine line] ((LineBuffer.lines left).map textLine) y').symm⟩

/-- **A filter without operations copies all lines that are left** and leaves the files alone. -/
theorem stepsPass_copy (inv : Invocation) (files : Snapshot) (input : Bytes) :
    StepsPass inv [.filter [] false] files input ((LineBuffer.lines input).map textLine) files [] :=
  fun more y => by
    have hdemand : (State.before ([.filter [] false] ++ more) files).demand inv =
        (State.filtering ⟨[], false, 0⟩ more files).demand inv := rfl
    exact (State.denotes_congr hdemand).trans (denotes_copying inv 0 more files input y)

/-! ## Where a chain is open -/

/-- Behind these instructions a chain is open: but for `cat` the last of them is an operation. -/
def OpensChain (is : List Instruction) : Prop :=
  ∃ before o cats, is = before ++ .op o :: cats ∧ ∀ i ∈ cats, i = .cat

theorem OpensChain.concat_op (is : List Instruction) (o : Op) : OpensChain (is ++ [.op o]) :=
  ⟨is, o, [], rfl, fun _ h => absurd h List.not_mem_nil⟩

theorem OpensChain.concat_cat : OpensChain (is ++ [.cat]) ↔ OpensChain is := by
  constructor
  · rintro ⟨before, o, cats, heq, hcats⟩
    rcases List.eq_nil_or_concat cats with rfl | ⟨cats, last, rfl⟩
    · cases (List.append_inj' heq rfl).2
    · rw [List.concat_eq_append, ← List.cons_append, ← List.append_assoc] at heq
      exact ⟨before, o, cats, (List.append_inj' heq rfl).1, fun i hi =>
        hcats i (List.concat_eq_append .. ▸ List.mem_append_left _ hi)⟩
  · rintro ⟨before, o, cats, rfl, hcats⟩
    refine ⟨before, o, cats ++ [.cat], by simp, fun i hi => ?_⟩
    exact (List.mem_append.mp hi).elim (hcats i) List.mem_singleton.mp

theorem not_opensChain_concat {i : Instruction} (hop : ∀ o, i ≠ .op o) (hcat : i ≠ .cat) :
    ¬ OpensChain (is ++ [i]) := by
  rintro ⟨before, o, cats, heq, hcats⟩
  rcases List.eq_nil_or_concat cats with rfl | ⟨cats, last, rfl⟩
  · exact hop o (List.singleton_inj.mp (List.append_inj' heq rfl).2)
  · rw [List.concat_eq_append, ← List.cons_append, ← List.append_assoc] at heq
    have hlast : i = last := List.singleton_inj.mp (List.append_inj' heq rfl).2
    exact hcat (hlast.trans (hcats last (by simp)))

/-- **A draft has an open chain exactly behind such instructions.** -/
theorem Draft.chain_foldl_ne_nil : (is.foldl Draft.add .empty).chain ≠ [] ↔ OpensChain is := by
  induction is using List.reverseRecOn with
  | nil =>
    refine iff_of_false (fun h => h rfl) ?_
    rintro ⟨before, o, cats, heq, -⟩
    simp at heq
  | append_singleton is i ih =>
    rw [List.foldl_append, List.foldl_cons, List.foldl_nil]
    cases i with
    | op o => exact iff_of_true (List.cons_ne_nil _ _) (OpensChain.concat_op is o)
    | cat =>
      rw [OpensChain.concat_cat, ← ih, Draft.add]
      split
      · rename_i hempty
        rw [List.isEmpty_iff.mp hempty]
      · rfl
    | count =>
      exact iff_of_false (fun h => h rfl) (not_opensChain_concat (fun o h => by cases h) (by simp))
    | action s =>
      refine iff_of_false (fun h => h ?_) (not_opensChain_concat (fun o h => by cases h) (by simp))
      rw [Draft.add, Draft.flush]
      split
      · rename_i hempty
        exact List.isEmpty_iff.mp hempty
      · rfl

/-! ## The steps of a source -/

/-- The steps that instructions come to. -/
def drafted (is : List Instruction) : List Step := (is.foldl Draft.add .empty).flush.steps.reverse

/-- **In an open chain `cat` says nothing.** -/
theorem drafted_cat_open (h : OpensChain is) (is' : List Instruction) :
    drafted (is ++ .cat :: is') = drafted (is ++ is') := by
  have hchain := Draft.chain_foldl_ne_nil.mpr h
  have hcat : (is.foldl Draft.add .empty).add .cat = is.foldl Draft.add .empty :=
    if_neg fun hempty => hchain (List.isEmpty_iff.mp hempty)
  rw [drafted, drafted, List.foldl_append, List.foldl_append, List.foldl_cons, hcat]

theorem foldl_of_not_opensChain (h : ¬ OpensChain is) :
    is.foldl Draft.add .empty = ⟨(drafted is).reverse, []⟩ := by
  have hchain : (is.foldl Draft.add .empty).chain = [] := not_not.mp (mt Draft.chain_foldl_ne_nil.mp h)
  have hflush : (is.foldl Draft.add .empty).flush = is.foldl Draft.add .empty :=
    if_pos (List.isEmpty_iff.mpr hchain)
  rw [drafted, hflush, List.reverse_reverse, ← hchain]

/-- Where no chain is open, the steps of what stands behind follow those of what stands before. -/
theorem drafted_append (h : ¬ OpensChain is) (is' : List Instruction) :
    drafted (is ++ is') = drafted is ++ drafted is' := by
  rw [drafted, List.foldl_append, foldl_of_not_opensChain h, Draft.steps_behind,
    List.reverse_append,
    List.reverse_reverse]
  rfl

/-- **Where no chain is open `cat` is a filter of its own.** -/
theorem drafted_cat (h : ¬ OpensChain is) (is' : List Instruction) :
    drafted (is ++ .cat :: is') = drafted is ++ .filter [] false :: drafted is' := by
  have hcat : Draft.add ⟨(drafted is).reverse, []⟩ .cat =
      ⟨.filter [] false :: (drafted is).reverse, []⟩ := rfl
  rw [drafted, List.foldl_append, foldl_of_not_opensChain h, List.foldl_cons, hcat,
    Draft.steps_behind,
    List.reverse_append, List.reverse_cons, List.reverse_reverse, List.append_assoc]
  rfl

/-! ## With the line and without -/

/-- The yields of a script that has these steps before a place and those behind it, without a filter
that copies in that place and with one. The filter makes no difference if a step before it fails.
Otherwise it puts out what is left of the input, and the steps behind it have none. -/
inductive CopySpec (inv : Invocation) (before behind : List Step) (files : Snapshot)
    (input : Bytes) : Yield → Yield → Prop where
  | failed {y : Yield} (hfails : StepsFail inv before files input y) :
      CopySpec inv before behind files input y y
  | copied {pieces : List Bytes} {files' : Snapshot} {left : Bytes} {y y' : Yield}
      (hpasses : StepsPass inv before files input pieces files' left)
      (hleft : (State.before behind files').Denotes inv left y)
      (hnone : (State.before behind files').Denotes inv [] y') :
      CopySpec inv before behind files input (y.after pieces)
        (y'.after (pieces ++ (LineBuffer.lines left).map textLine))

/-- Whatever the steps, both scripts come to their end. -/
theorem exists_copySpec (inv : Invocation) (before behind : List Step) (files : Snapshot)
    (input : Bytes) : ∃ y y', (State.before (before ++ behind) files).Denotes inv input y ∧
      (State.before (before ++ .filter [] false :: behind) files).Denotes inv input y' ∧
      CopySpec inv before behind files input y y' := by
  rcases stepsEnd inv before files input with ⟨pieces, files', left, hpasses⟩ | ⟨y, hfails⟩
  · obtain ⟨y, hleft, -⟩ := sharesInput_of_denotes inv behind files' left
    obtain ⟨y', hnone, -⟩ := sharesInput_of_denotes inv behind files' []
    refine ⟨_, _, (hpasses behind _).mpr ⟨y, hleft, rfl⟩, ?_, .copied hpasses hleft hnone⟩
    have hcopied :=
      ((hpasses.append (stepsPass_copy inv files' left)) behind _).mpr ⟨y', hnone, rfl⟩
    rwa [List.append_assoc] at hcopied
  · exact ⟨y, y, (hfails.only behind y).mpr rfl, (hfails.only _ y).mpr rfl, .failed hfails⟩

/-- **`cat` joins the chain that is open before it; where none is open it copies the rest of the
input.** With the line and without, a source compiles or does not. Behind an operation the script is
the same. Elsewhere it has one more filter, that takes the input from the steps behind it. -/
theorem cat_joins_or_copies (name : String) {source source' : String} {front rest : List (List Char)}
    {line : List Char} (hline : instructionOn "" line = .ok (some .cat))
    (hsource : Lines.ofText source = front ++ rest)
    (hsource' : Lines.ofText source' = front ++ line :: rest) :
    ((∃ script, parse name source' = .ok script) ↔ ∃ script, parse name source = .ok script) ∧
      ∀ is is', InstructionLines front is → InstructionLines rest is' →
        parse name source = .ok ⟨name, drafted (is ++ is')⟩ ∧
        (OpensChain is → parse name source' = .ok ⟨name, drafted (is ++ is')⟩) ∧
        (¬ OpensChain is → drafted (is ++ is') = drafted is ++ drafted is' ∧
          parse name source' = .ok ⟨name, drafted is ++ .filter [] false :: drafted is'⟩ ∧
          ∀ inv input, ∃ y y',
            (Task.start (P := Script) ⟨name, drafted is ++ drafted is'⟩ inv).Yields input y ∧
            (Task.start (P := Script) ⟨name, drafted is ++ .filter [] false :: drafted is'⟩
              inv).Yields input y' ∧
            CopySpec inv (drafted is) (drafted is') inv.files input y y') := by
  have hboth : ∀ is is', InstructionLines front is → InstructionLines rest is' →
      parse name source = .ok ⟨name, drafted (is ++ is')⟩ ∧
      parse name source' = .ok ⟨name, drafted (is ++ .cat :: is')⟩ := fun is is' his his' =>
    ⟨parse_eq_ok.mpr ⟨_, hsource ▸ his.append his', rfl⟩,
      parse_eq_ok.mpr ⟨_, hsource' ▸ his.append (.cons hline his'), rfl⟩⟩
  refine ⟨⟨fun ⟨script, hscript⟩ => ?_, fun ⟨script, hscript⟩ => ?_⟩, fun is is' his his' => ?_⟩
  · obtain ⟨all, hall, -⟩ := parse_eq_ok.mp hscript
    obtain ⟨is, behind, his, hbehind, -⟩ := instructionLines_append_iff.mp (hsource' ▸ hall)
    cases hbehind with
    | blank hblank _ => cases hline.symm.trans hblank
    | cons _ his' => exact ⟨_, (hboth is _ his his').1⟩
  · obtain ⟨all, hall, -⟩ := parse_eq_ok.mp hscript
    obtain ⟨is, is', his, his', -⟩ := instructionLines_append_iff.mp (hsource ▸ hall)
    exact ⟨_, (hboth is is' his his').2⟩
  · obtain ⟨hwithout, hwith⟩ := hboth is is' his his'
    refine ⟨hwithout, fun hopen => drafted_cat_open hopen is' ▸ hwith, fun hclosed => ?_⟩
    refine ⟨drafted_append hclosed is', drafted_cat hclosed is' ▸ hwith, fun inv input => ?_⟩
    obtain ⟨y, y', hy, hy', hcopied⟩ :=
      exists_copySpec inv (drafted is) (drafted is') inv.files input
    exact ⟨y, y', yields_of_denotes hy, yields_of_denotes hy', hcopied⟩

/-- A source with the line behind an operation. -/
theorem cat_joins_or_copies_numbered :
    instructionOn "" "cat".toList = .ok (some .cat) ∧
    Lines.ofText "grep b\nnumber" = ["grep b".toList] ++ ["number".toList] ∧
    Lines.ofText "grep b\ncat\nnumber" = ["grep b".toList] ++ "cat".toList :: ["number".toList] ∧
    ∀ name, parse name "grep b\ncat\nnumber" =
      .ok ⟨name, [.filter [.grep "b" false false, .number] false]⟩ := by
  have hline : instructionOn "" "cat".toList = .ok (some .cat) := by decide
  have hsource : Lines.ofText "grep b\nnumber" = ["grep b".toList] ++ ["number".toList] := by decide
  have hsource' : Lines.ofText "grep b\ncat\nnumber" =
      ["grep b".toList] ++ "cat".toList :: ["number".toList] := by decide
  refine ⟨hline, hsource, hsource', fun name => ?_⟩
  have hsteps := (cat_joins_or_copies name hline hsource hsource').2 [.op (.grep "b" false false)]
    [.op .number] (.cons rfl .nil) (.cons rfl .nil)
  exact hsteps.2.1 (OpensChain.concat_op [] _)

/-- In front of a filter instruction at the beginning of a script the line copies what does not match
and leaves nothing to look for. -/
theorem leading_cat_copies :
    ¬ ∀ (name source source' : String) (front rest : List (List Char)) (line filter : List Char)
      (o : Op), instructionOn "" line = .ok (some .cat) →
        instructionOn "" filter = .ok (some (.op o)) →
        Lines.ofText source = front ++ filter :: rest →
        Lines.ofText source' = front ++ line :: filter :: rest →
        ∀ script script', parse name source = .ok script → parse name source' = .ok script' →
          ∀ inv input y y', (Task.start script inv).Yields input y →
            (Task.start script' inv).Yields input y' → y.output = y'.output := by
  intro h
  have hbehind : (State.before [.filter [.grep "b" false false] false] .null).Denotes
      ⟨["t"], [], .null⟩ [] ⟨[], .done, .null⟩ := .line rfl (.finish rfl)
  have hcopied := (stepsPass_copy ⟨["t"], [], .null⟩ .null (Utf8.encode "a\nb\n")
    [.filter [.grep "b" false false] false] _).mpr ⟨_, hbehind, rfl⟩
  have hsame := h "t" "grep b" "cat\ngrep b" [] [] "cat".toList "grep b".toList
    (.grep "b" false false) (by decide) (by decide) (by decide) (by decide)
    ⟨"t", [.filter [.grep "b" false false] false]⟩
    ⟨"t", [.filter [] false, .filter [.grep "b" false false] false]⟩ (by decide) (by decide)
    ⟨["t"], [], .null⟩ (Utf8.encode "a\nb\n") ⟨[textLine "b"], .done, .null⟩ _
    ⟨20, Task.yield?_more rfl⟩ (yields_of_denotes hcopied)
  exact absurd hsame (by decide +kernel)

end Script

end Pipework
