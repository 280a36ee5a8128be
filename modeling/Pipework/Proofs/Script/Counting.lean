import Pipework.Proofs.Delivering
import Pipework.Proofs.LossyDecoding
import Pipework.Proofs.Passing
import Pipework.Proofs.Script.Fusion
import Pipework.Proofs.Script.Rehearsing

/-!
# Counting lines

Two ways to count lines: the command `wc -l` decodes its whole input and counts the lines of the
text, the script `count` puts lines together from the pieces that its input comes in and decodes
each of them. Both put out the same number (`counts_agree`), as bytes are cut into lines alike before
and after they are decoded.
-/

namespace Pipework

variable {P : Type} [Program P]

/-- The number of lines of an input, as it is printed. -/
def lineCount (input : Bytes) : Bytes :=
  Script.textLine (toString (Lines.ofText (Utf8.decodeLossy input)).length)

/-- The command counts the lines of the text that its input is decoded to. -/
theorem Stage.start_count (index : Nat) (env : Dict String) (past : List Callback.Call)
    (files : Snapshot) (given : Option Bytes) :
    ((Host.inline index (Builtin.wc.stage ["-l"] env : Stage P) files).start past given).2 =
      ([.data (lineCount (given.getD [])), .ended none], none) := by
  have hyield : (Builtin.wc.stage ["-l"] env : Stage P).yield? 0 past files (given.getD []) =
      some ⟨[lineCount (given.getD [])], .done, files⟩ := rfl
  have hsame : Host.changed files files = none := if_pos rfl
  rw [Host.start_callback index past files given rfl hyield, Yield.events, Host.closing,
    Verdict.message?, hsame]
  rfl

namespace Script

variable {input : Bytes}

/-- A filter without operations that counts comes to the number of lines that it reads. -/
theorem count_yields (name : String) (inv : Invocation) (input : Bytes) : ∃ left,
    (Task.start (⟨name, [.filter [] true]⟩ : Script) inv).Yields input
      ⟨[lineCount input], .done, left⟩ := by
  obtain ⟨left, hyields⟩ := filter_yields inv name (.nil : PreparesTo inv [] []) rfl true input
  have hcount : (chained [] (LineBuffer.lines input)).length =
      (Lines.ofText (Utf8.decodeLossy input)).length := by
    show (LineBuffer.lines input).length = _
    rw [LineBuffer.lines_eq_ofText, List.length_map]
  rw [reported, if_pos rfl, hcount] at hyields
  exact ⟨left, hyields⟩

/-- A script that comes to this on its whole input is rehearsed to this, whatever the pieces. -/
theorem rehearse_yields {script : Script} {inv : Invocation} {y : Yield} {pieces behind : List Bytes}
    (hy : (Task.start script inv).Yields pieces.flatten y) (hsome : [] ∉ pieces)
    (hbehind : behind.headD [] = []) : ∃ after,
      script.rehearse inv (.ofPieces (pieces ++ behind) none none) =
        some (y.verdict, y.files, after) ∧ after.output = y.output := by
  obtain ⟨⟨verdict, files, after⟩, hends⟩ :=
    script.rehearse_ends inv (.ofPieces (pieces ++ behind) none none)
  have hdelivers : (Rehearsal.ofPieces (pieces ++ behind) none none).Delivers pieces.flatten :=
    Rehearsal.delivers_pieces rfl rfl hsome hbehind
  have hreads := readsOnly_lines script inv
  obtain ⟨acts, hacts⟩ := hy
  have hdenotes := (Task.ReadsPlainly.start (.inl hreads) pieces.flatten).denotes_of_yield (hacts 0)
  obtain ⟨rfl, rfl, houtput⟩ :=
    Rehearsal.perform_denoted (.ofPieces _) (.start hdelivers hreads hdenotes) hends
  exact ⟨after, hends, houtput⟩

/-- **The script `count` and the command `wc -l` put out the same bytes** for the same input, whatever
the bytes and whatever pieces the script reads them in: the number of lines of the text that they
are decoded to. The script ends well in every rehearsal, and comes to the same given all at once. -/
theorem counts_agree (name : String) (inv : Invocation) (pieces behind : List Bytes)
    (hsome : [] ∉ pieces) (hbehind : behind.headD [] = []) (env : Dict String)
    (past : List Callback.Call) (files : Snapshot) (index : Nat) (given : Option Bytes)
    (hgiven : given.getD [] = pieces.flatten) :
    ∃ script left after, parse name "count" = .ok script ∧
      script.rehearse inv (.ofPieces (pieces ++ behind) none none) = some (.done, left, after) ∧
      ((Host.inline index (Builtin.wc.stage ["-l"] env : Stage P) files).start past given).2 =
        ([.data after.output, .ended none], none) ∧
      (Task.start script inv).Yields pieces.flatten ⟨[after.output], .done, left⟩ ∧
      after.output = lineCount pieces.flatten := by
  obtain ⟨left, hyields⟩ := count_yields name inv pieces.flatten
  obtain ⟨after, hends, houtput⟩ := rehearse_yields hyields hsome hbehind
  have hcount : after.output = lineCount pieces.flatten := houtput.trans (List.append_nil _)
  refine ⟨_, left, after, rfl, hends, ?_, ?_, hcount⟩
  · rw [Stage.start_count, hgiven, hcount]
  · rw [hcount]
    exact hyields

/-- Pieces that are no text, and are cut inside a character and before a newline. -/
def brokenPieces : List Bytes := [[0xE2], [0x82, 10, 13], [10, 13, 10, 0xFF]]

/-- A newline that cuts a character short, two behind carriage returns, and a last line of which no
byte can be read: four lines. -/
theorem counts_agree_broken :
    [] ∉ brokenPieces ∧ ([[], [10]] : List Bytes).headD [] = [] ∧
      (some brokenPieces.flatten).getD [] = brokenPieces.flatten ∧
      ∃ script left after, parse "c" "count" = .ok script ∧
        script.rehearse ⟨[], [], .null⟩ (.ofPieces (brokenPieces ++ [[], [10]]) none none) =
          some (.done, left, after) ∧
        after.output = Utf8.encode "4\n" ∧
        ((Host.inline 0 (Builtin.wc.stage ["-l"] [] : Stage Script) .null).start []
          (some brokenPieces.flatten)).2 = ([.data (Utf8.encode "4\n"), .ended none], none) := by
  have hsome : [] ∉ brokenPieces := by decide
  obtain ⟨script, left, after, hparse, hends, hwc, -, hcount⟩ := counts_agree (P := Script) "c"
    ⟨[], [], .null⟩ brokenPieces [[], [10]] hsome rfl [] [] .null 0 (some brokenPieces.flatten) rfl
  have hfour : after.output = Utf8.encode "4\n" := hcount.trans rfl
  rw [hfour] at hwc
  exact ⟨hsome, rfl, rfl, script, left, after, hparse, hends, hfour, hwc⟩

end Script

end Pipework
