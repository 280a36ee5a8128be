import Pipework.Proofs.Encoding
import Pipework.Proofs.Script.Filter
import Pipework.Proofs.Script.Sources

/-!
# Two filters and one chain

A filter whose whole output is the input of another does the same as one chain of the operations of
both (`fused_agrees`), if what it writes is read back line by line as it was written. The output of
a filter without tees is what its chain makes of the lines of its input (`filter_yields`), and
chains compose (`chained_append`).
-/

namespace Pipework

namespace Script

variable {inv : Invocation} {chain chain' : List Op} {ops rest : List ReadyOp} {count : Bool}
  {files files' : Snapshot} {input : Bytes}

/-! ## Chains without tees -/

/-- A chain without tees whose patterns compile. -/
structure TeelessChain (inv : Invocation) (chain : List Op) : Prop where
  compiles : ∀ pattern invert ignoreCase, Op.grep pattern invert ignoreCase ∈ chain →
    ∃ p, Pattern.compile (expand inv pattern) ignoreCase = .ok p
  teeless : ∀ path, Op.tee path ∉ chain

/-- The operations of a chain as they are made ready for a run. -/
def PreparesTo (inv : Invocation) (chain : List Op) (ops : List ReadyOp) : Prop :=
  List.Forall₂ (fun op ready => Op.ready inv op = .ok ready) chain ops

theorem PreparesTo.append (h : PreparesTo inv chain ops) (h' : PreparesTo inv chain' rest) :
    PreparesTo inv (chain ++ chain') (ops ++ rest) := List.rel_append h h'

/-- What is put in for a variable does not depend on the files. -/
theorem expand_files (args : List String) (env : Dict String) (files files' : Snapshot) :
    expand ⟨args, env, files⟩ = expand ⟨args, env, files'⟩ := by
  have hvalue : Piece.value ⟨args, env, files⟩ = Piece.value ⟨args, env, files'⟩ := by
    funext piece
    cases piece with
    | char c => rfl
    | var v => cases v <;> rfl
  funext text
  rw [expand, expand, hvalue]

theorem ready_files (args : List String) (env : Dict String) (op : Op) :
    Op.ready ⟨args, env, files⟩ op = Op.ready ⟨args, env, files'⟩ op := by
  cases op <;> simp only [Op.ready, expand_files args env files files']

theorem PreparesTo.with_files {args : List String} {env : Dict String}
    (h : PreparesTo ⟨args, env, files⟩ chain ops) : PreparesTo ⟨args, env, files'⟩ chain ops :=
  h.imp fun op _ hready => (ready_files args env op).symm.trans hready

/-- Only a tee is made ready as a tee. -/
theorem teePath?_of_ready {op : Op} {ready : ReadyOp} (h : Op.ready inv op = .ok ready)
    (hop : ∀ path, op ≠ .tee path) : ready.teePath? = none := by
  cases op with
  | grep pattern invert ignoreCase =>
    simp only [Op.ready] at h
    split at h
    · cases h
      rfl
    · cases h
  | tee path => exact absurd rfl (hop path)
  | _ =>
    cases h
    rfl

theorem TeelessChain.preparesTo (h : TeelessChain inv chain) :
    ∃ ops, PreparesTo inv chain ops ∧ teePaths ops = [] := by
  obtain ⟨ops, hready⟩ := exists_ready h.compiles
  refine ⟨ops, hready, ?_⟩
  have hteeless := h.teeless
  clear h
  induction hready with
  | nil => rfl
  | cons hop _ ih =>
    simp only [List.mem_cons, not_or] at hteeless
    have hnone := teePath?_of_ready hop fun path h => (hteeless path).1 h.symm
    rw [teePaths, List.filterMap_cons_none hnone]
    exact ih fun path => (hteeless path).2

theorem emptyTees_teeless (h : teePaths ops = []) :
    emptyTees files (ops.map fun op => ⟨op, 0⟩) = .ok files := by
  induction ops with
  | nil => rfl
  | cons op rest ih =>
    cases op with
    | tee path => cases h
    | _ => exact ih h

/-! ## What a filter writes -/

/-- **A filter without tees writes what its chain makes of the lines**, whatever the files. -/
theorem filter_yields (inv : Invocation) (name : String) (hready : PreparesTo inv chain ops)
    (hteeless : teePaths ops = []) (count : Bool) (input : Bytes) : ∃ files',
      (Task.start (⟨name, [.filter chain count]⟩ : Script) inv).Yields input
        ⟨reported count (chained ops (LineBuffer.lines input)).length
          (chained ops (LineBuffer.lines input)), .done, files'⟩ := by
  obtain ⟨files', left, new, hnew, -, -, hdenotes⟩ := FilterOutcome.filtering inv ops count input []
    inv.files fun h => absurd hteeless h
  rw [chained_nil, List.nil_append, List.nil_append] at hnew
  simp only [chained_nil, List.nil_append, List.length_nil, ← hnew] at hdenotes
  have hstart : Filter.start inv chain count inv.files =
      .ok (⟨cellsAfter ops [], count, 0⟩, inv.files) := by
    simp only [Filter.start, mapM_eq_ok.mpr hready, emptyTees_teeless hteeless, cellsAfter_nil]
  have hd : Program.demand (P := Script) (Run.mk inv (.before [.filter chain count] inv.files)) =
      .line fun a => Run.mk inv (Filter.gotLine ⟨cellsAfter ops [], count, 0⟩ [] inv.files a) := by
    show Demand.map _ (begin inv [.filter chain count] inv.files) = _
    simp only [begin, hstart]
    rfl
  have hended : (State.before [] files').Denotes inv left ⟨[], .done, files'⟩ :=
    (Program.denotes_finish (P := Script) rfl left _).mpr rfl
  refine ⟨files', Task.ReadsPlainly.yields (.start (.inl (readsOnly_lines _ inv)) input) ?_⟩
  refine (Program.denotes_line hd input _).mpr ((denotes_filtering _ [] inv.files input _).mp ?_)
  exact (hdenotes [] _).mpr ⟨_, hended, by simp [Yield.after]⟩

theorem textLine_injective {s t : String} (h : textLine s = textLine t) : s = t :=
  (String.append_left_inj "\n").mp (Utf8.encode_injective h)

/-- Lines that stay whole are read from an output as they were written to it. -/
theorem lines_of_written {lines : List String} (h : ∀ line ∈ lines, Lines.SingleLine line) :
    LineBuffer.lines (lines.map textLine).flatten = lines := by
  induction lines with
  | nil => rfl
  | cons line lines ih =>
    obtain ⟨hline, hlines⟩ := List.forall_mem_cons.mp h
    rw [List.map_cons, List.flatten_cons, textLine, LineBuffer.lines_written hline, ih hlines]

/-- **A filter behind another is one chain.** Without tees, and with patterns that compile, the
first filter comes to an end; if none of the lines that it writes holds a newline or ends in a
carriage return, then the second filter on its whole output and one filter with the operations of
both on the first input come to an end too, and write the same, lines or their number. The
instructions of both behind each other are that one filter. -/
theorem fused_agrees (args : List String) (env : Dict String) (first second : List Op)
    (count : Bool) (hfirst : TeelessChain ⟨args, env, .null⟩ first)
    (hsecond : TeelessChain ⟨args, env, .null⟩ second)
    (name name' name'' : String) (files files' files'' : Snapshot) (input : Bytes) :
    (∃ y, (Task.start (⟨name, [.filter first false]⟩ : Script) ⟨args, env, files⟩).Yields input y ∧
      y.verdict = .done ∧
      ((∀ line, textLine line ∈ y.pieces → Lines.SingleLine line) → ∃ y' y'',
        (Task.start (⟨name', [.filter second count]⟩ : Script) ⟨args, env, files'⟩).Yields
          y.output y' ∧ y'.verdict = .done ∧
        (Task.start (⟨name'', [.filter (first ++ second) count]⟩ : Script)
          ⟨args, env, files''⟩).Yields input y'' ∧ y''.verdict = .done ∧
        y'.output = y''.output)) ∧
    ∀ front rest, first ≠ [] → second ≠ [] →
      parse name (front ++ "\n") = .ok ⟨name, [.filter first false]⟩ →
        parse name rest = .ok ⟨name, [.filter second count]⟩ →
          parse name (front ++ "\n" ++ rest) = .ok ⟨name, [.filter (first ++ second) count]⟩ := by
  refine ⟨?_, fun front rest hsome hsome' h h' => parse_fused hsome hsome' h h'⟩
  obtain ⟨ops, hready, hteeless⟩ := hfirst.preparesTo
  obtain ⟨ops', hready', hteeless'⟩ := hsecond.preparesTo
  obtain ⟨left, hyields⟩ := filter_yields ⟨args, env, files⟩ name hready.with_files
    hteeless false input
  refine ⟨_, hyields, rfl, fun hintact => ?_⟩
  have hteeless'' : teePaths (ops ++ ops') = [] := by
    rw [teePaths, List.filterMap_append]
    exact List.append_eq_nil_iff.mpr ⟨hteeless, hteeless'⟩
  obtain ⟨left', hyields'⟩ := filter_yields ⟨args, env, files'⟩ name' hready'.with_files
    hteeless' count ((chained ops (LineBuffer.lines input)).map textLine).flatten
  obtain ⟨left'', hyields''⟩ := filter_yields ⟨args, env, files''⟩ name''
    (hready.append hready').with_files hteeless'' count input
  refine ⟨_, _, hyields', rfl, hyields'', rfl, ?_⟩
  have hlines : LineBuffer.lines ((chained ops (LineBuffer.lines input)).map textLine).flatten =
      chained ops (LineBuffer.lines input) :=
    lines_of_written fun line hline => hintact line (List.mem_map_of_mem hline)
  rw [Yield.output, Yield.output, hlines, chained_append]

/-- The first line that matches is let through and numbered, in two filters or in one. -/
theorem fused_agrees_numbered :
    TeelessChain ⟨[], [], .null⟩ [.grep "b" false false, .head 1] ∧
    TeelessChain ⟨[], [], .null⟩ [.number] ∧
      parse "f" "grep b\nhead 1\nnumber" =
        .ok ⟨"f", [.filter [.grep "b" false false, .head 1, .number] false]⟩ ∧
      ∃ y y' y'',
        (Task.start (⟨"f", [.filter [.grep "b" false false, .head 1] false]⟩ : Script)
          ⟨[], [], .null⟩).Yields (Utf8.encode "a\nb\nb\n") y ∧
        (∀ line, textLine line ∈ y.pieces → Lines.SingleLine line) ∧
        (Task.start (⟨"f", [.filter [.number] false]⟩ : Script) ⟨[], [], .null⟩).Yields
          y.output y' ∧
        (Task.start (⟨"f", [.filter [.grep "b" false false, .head 1, .number] false]⟩ : Script)
          ⟨[], [], .null⟩).Yields (Utf8.encode "a\nb\nb\n") y'' ∧
        y.output = Utf8.encode "b\n" ∧ y'.output = y''.output := by
  have hfirst : TeelessChain ⟨[], [], .null⟩ [.grep "b" false false, .head 1] := by
    refine ⟨fun pattern invert ignoreCase hmem => ?_, fun path hmem => by simp at hmem⟩
    simp only [List.mem_cons, Op.grep.injEq, reduceCtorEq, List.not_mem_nil, or_false] at hmem
    obtain ⟨rfl, rfl, rfl⟩ := hmem
    exact ⟨_, rfl⟩
  have hsecond : TeelessChain ⟨[], [], .null⟩ [.number] :=
    ⟨fun pattern invert ignoreCase hmem => by simp at hmem, fun path hmem => by simp at hmem⟩
  obtain ⟨⟨y, hy, -, hfused⟩, hparse⟩ := fused_agrees [] [] _ _ false hfirst hsecond "f" "f" "f"
    .null .null .null (Utf8.encode "a\nb\nb\n")
  have hcomes : (Task.start (⟨"f", [.filter [.grep "b" false false, .head 1] false]⟩ : Script)
      ⟨[], [], .null⟩).Yields (Utf8.encode "a\nb\nb\n") ⟨[textLine "b"], .done, .null⟩ :=
    ⟨20, Task.yield?_more rfl⟩
  obtain rfl := hy.unique hcomes
  have hintact : ∀ line, textLine line ∈ [textLine "b"] → Lines.SingleLine line := by
    intro line hline
    obtain rfl := textLine_injective (List.mem_singleton.mp hline)
    exact ⟨by decide, by decide⟩
  obtain ⟨y', y'', hy', -, hy'', -, hsame⟩ := hfused hintact
  exact ⟨hfirst, hsecond,
    hparse "grep b\nhead 1" "number" (List.cons_ne_nil _ _) (List.cons_ne_nil _ _) rfl rfl,
    _, y', y'', hy, hintact, hy', hy'', rfl, hsame⟩

end Script

end Pipework
