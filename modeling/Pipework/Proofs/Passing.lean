import Pipework.Builtin
import Pipework.Proofs.Encoding
import Pipework.Proofs.Snapshot
import Pipework.Proofs.Yield
import Pipework.Script.Run

/-!
# Texts that pass through commands

The result of a built-in command loses the newline at its end (`Builtin.output_line`), and the host
puts one behind every result. For texts of whole lines the two cancel (`Yield.ofCall_output`), so
`cat` and `tee` hand such a text on as it is (`text_passes`). One text does not come through: a
newline alone is no result at all, and nothing is put out (`newline_vanishes`).
-/

namespace Pipework

/-- A text of whole lines: it is empty or ends with a newline. -/
def Lines.WholeLines (text : String) : Prop := text = "" ∨ ∃ line, text = line ++ "\n"

namespace Builtin

variable {text : String}

/-- The newline at the end of a text is no part of the result. -/
theorem output_line (line : String) :
    output (line ++ "\n") = if line = "" then none else some line := by
  simp [output]

/-- What comes through of a text of whole lines: all of it, unless it is a newline alone. -/
def passed (text : String) : String := if text = "\n" then "" else text

theorem passed_eq_self : passed text = text ↔ text ≠ "\n" := by
  unfold passed
  split
  · rename_i heq
    subst heq
    exact iff_of_false (by decide) (fun h => h rfl)
  · rename_i hne
    exact iff_of_true rfl hne

end Builtin

/-- **A result that is a text of whole lines is put out as one piece**, or not at all. -/
theorem Yield.ofCall_output {text : String} (h : Lines.WholeLines text) (files : Snapshot) :
    Yield.ofCall (.ok (Builtin.output text)) files =
      ⟨if Builtin.passed text = "" then [] else [Utf8.encode (Builtin.passed text)], .done,
        files⟩ := by
  rcases h with rfl | ⟨line, rfl⟩
  · rfl
  rw [Builtin.output_line]
  by_cases hline : line = ""
  · subst hline
    rfl
  · have hpassed : Builtin.passed (line ++ "\n") = line ++ "\n" :=
      Builtin.passed_eq_self.mpr fun heq => hline ((String.append_eq_right_iff ..).mp heq)
    have hsome : line ++ "\n" ≠ "" := by simp
    rw [if_neg hline, hpassed, if_neg hsome]
    rfl

namespace Builtin

/-! ## Files -/

variable {files : Snapshot} {operands : List String}

/-- Files that are there are put behind each other. -/
theorem contents_eq_join {texts : List String}
    (h : List.Forall₂ (fun path content => Snapshot.read? files path = some content) operands texts) :
    contents files operands = .ok (String.join texts) := by
  induction h with
  | nil => rfl
  | cons hread _ ih =>
    simp only [contents, hread, ih]
    simp [Except.map]

/-- What holds files takes the input under every name. -/
theorem store_ok (input : String) (operands : List String) (append : Bool)
    (h : Snapshot.HoldsFiles files) : (store input append files operands).1 = .ok () := by
  induction operands generalizing files append with
  | nil => rfl
  | cons operand rest ih =>
    unfold store
    split
    · exact ih true h
    · obtain ⟨after, hwrite, hafter, -⟩ := Snapshot.write_holdsFiles h operand
        ((if append then (Snapshot.read? files operand).getD "" else "") ++ input)
      simp only [hwrite]
      exact ih append hafter

theorem tee_run (inv : Invocation) (input : String) (h : Snapshot.HoldsFiles inv.files) :
    tee.run inv input = (.ok (output input), (store input false inv.files (inv.args.drop 1)).2) := by
  have hstored : store input false inv.files (inv.args.drop 1) =
      (.ok (), (store input false inv.files (inv.args.drop 1)).2) :=
    Prod.ext (store_ok input (inv.args.drop 1) false h) rfl
  simp only [run]
  rw [hstored]

theorem cat_run (inv : Invocation) (input : String) {texts : List String}
    (hpaths : inv.args.drop 1 ≠ []) (hread : List.Forall₂
      (fun path content => Snapshot.read? inv.files path = some content) (inv.args.drop 1) texts) :
    cat.run inv input = (.ok (output (String.join texts)), inv.files) := by
  have hsome : ¬ (inv.args.drop 1).isEmpty := by simpa using hpaths
  simp only [run, if_neg hsome, contents_eq_join hread]
  rfl

end Builtin

/-! ## Stages -/

variable {P : Type} [Program P]

/-- On this input the stage puts out this text, as one piece if it is any text at all, and ends well
with these files. -/
def Stage.Emits (s : Stage P) (files : Snapshot) (input : Bytes) (text : String) (left : Snapshot) :
    Prop :=
  ∀ (index : Nat) (past : List Callback.Call) (given : Option Bytes), given.getD [] = input →
    ((Host.inline index s files).start past given).2 =
      ((if text = "" then [] else [.data (Utf8.encode text)]) ++
        [.ended (Host.changed files left)], none)

/-- A stage emits what comes through of the text that its callback has for a result. -/
theorem Stage.emits_passed {s : Stage P} {c : Callback} (hs : s.executable = .callback c)
    {files left : Snapshot} {input : Bytes} {text : String} (htext : Lines.WholeLines text)
    (hc : ∀ past, c past (s.invocation files) (Utf8.decodeLossy input) =
      (.ok (Builtin.output text), left)) :
    s.Emits files input (Builtin.passed text) left := by
  intro index past given hgiven
  have hyield : s.yield? 0 past files (given.getD []) =
      some (.ofCall (.ok (Builtin.output text)) left) := by
    simp only [Stage.yield?, hs, hgiven, hc]
  rw [Host.start_callback index past files given hs hyield, Yield.ofCall_output htext]
  simp only [Yield.events]
  split <;> rfl

/-- A stage of a built-in command. -/
def Builtin.stage (b : Builtin) (operands : List String) (env : Dict String) : Stage P :=
  ⟨b.name :: operands, env, .callback b.callback⟩

/-- **Texts of whole lines pass through `cat` and `tee`, and `cat` puts files behind each other**, but
for a newline alone, of which nothing comes through. -/
theorem text_passes (env : Dict String) (files : Snapshot) {text : String}
    (h : Lines.WholeLines text) :
    (Builtin.cat.stage [] env : Stage P).Emits files (Utf8.encode text) (Builtin.passed text) files ∧
      (Snapshot.HoldsFiles files → ∀ operands,
        (Builtin.tee.stage operands env : Stage P).Emits files (Utf8.encode text)
          (Builtin.passed text) (Builtin.store text false files operands).2) ∧
      (∀ paths texts, paths ≠ [] →
        List.Forall₂ (fun path content => Snapshot.read? files path = some content) paths texts →
        String.join texts = text → ∀ input,
          (Builtin.cat.stage paths env : Stage P).Emits files input (Builtin.passed text) files) ∧
      (Builtin.passed text = text ↔ text ≠ "\n") := by
  have hinput : Utf8.decodeLossy (Utf8.encode text) = text := Utf8.decodeLossy_encode text
  refine ⟨Stage.emits_passed rfl h fun _ => ?_,
    fun hfiles operands => Stage.emits_passed rfl h fun _ => ?_, ?_,
    Builtin.passed_eq_self⟩
  · rw [hinput]
    rfl
  · rw [hinput]
    exact Builtin.tee_run _ text hfiles
  · rintro paths texts hpaths hread rfl input
    exact Stage.emits_passed rfl h fun _ => (Builtin.cat_run _ _ hpaths hread)

/-- Two files of which only the second has a text, read one behind the other. -/
theorem text_passes_twoFiles :
    Lines.WholeLines "a\n\n" ∧
    Snapshot.HoldsFiles (.object [("p", .text ""), ("q", .text "a\n\n")]) ∧
      (Builtin.cat.stage ["p", "q"] [] : Stage Script).Emits
        (.object [("p", .text ""), ("q", .text "a\n\n")]) [0xFF] "a\n\n"
        (.object [("p", .text ""), ("q", .text "a\n\n")]) := by
  have hwhole : Lines.WholeLines "a\n\n" := Or.inr ⟨"a\n", rfl⟩
  obtain ⟨-, -, hfiles, -⟩ := text_passes (P := Script) []
    (.object [("p", .text ""), ("q", .text "a\n\n")]) hwhole
  exact ⟨hwhole, trivial, hfiles ["p", "q"] ["", "a\n\n"] (List.cons_ne_nil _ _)
    (.cons rfl (.cons rfl .nil)) rfl [0xFF]⟩

/-- **A newline alone does not come through**: the stage ends well and has put out nothing. -/
theorem newline_vanishes :
    Lines.WholeLines "\n" ∧
      (Builtin.cat.stage [] [] : Stage Script).Emits .null (Utf8.encode "\n") "" .null ∧
      ¬ (Builtin.cat.stage [] [] : Stage Script).Emits .null (Utf8.encode "\n") "\n" .null := by
  have hwhole : Lines.WholeLines "\n" := Or.inr ⟨"", rfl⟩
  have hnothing : (Builtin.cat.stage [] [] : Stage Script).Emits .null (Utf8.encode "\n") "" .null :=
    Stage.emits_passed rfl hwhole fun _ => rfl
  refine ⟨hwhole, hnothing, fun hnewline => ?_⟩
  have hempty := hnothing 0 [] (some (Utf8.encode "\n")) rfl
  have hdata := hnewline 0 [] (some (Utf8.encode "\n")) rfl
  exact absurd (hempty.symm.trans hdata) (by decide)

end Pipework
