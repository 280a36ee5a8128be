import Pipework.Proofs.Lines
import Pipework.Proofs.Results
import Pipework.Proofs.Script.Chain

/-!
# Filters as list functions

A filter sends one line after another through its chain. What it writes is what the chain makes of
all lines at once (`chained`).

* `LinesRead` — the lines that a filter takes: up to the first at which it stops, or all of them.
* `ReadsShare.filtering` — the filter and the lines that it takes, by induction on the input that is
  left.
* `FilterOutcome.filtering` — the whole of the lines: nothing would come of those that it does not
  take.
* `filter_denotes` — a filter step from its beginning, with the files that its tees leave.
-/

namespace Pipework

namespace Script

variable {op : ReadyOp} {ops rest : List ReadyOp} {line line' : String} {lines more : List String}
  {files files₁ files₂ : Snapshot}

/-! ## All lines -/

/-- The yield of a script that stands so, on all the input that is left to it. -/
def State.Denotes (inv : Invocation) (s : State) (input : Bytes) (y : Yield) : Prop :=
  Program.Denotes Script (Run.mk inv s) input y

/-- What a filter writes of the lines that came through, `total` of them. -/
def reported (count : Bool) (total : Nat) (lines : List String) : List Bytes :=
  if count then [textLine (toString total)] else lines.map textLine

variable {inv : Invocation} {count : Bool} {input left : Bytes} {s s' : List Step → State}

theorem textLine_isEmpty (s : String) : (textLine s).isEmpty = false := by
  unfold textLine Utf8.encode
  rw [String.toList_append, List.flatMap_append]
  simp

/-- Data that a script has to write are put out first. -/
theorem denotes_data (data : Bytes) (files : Snapshot) (next : State) (input : Bytes) (y : Yield) :
    (State.writing data files next).Denotes inv input y ↔
      ∃ y', next.Denotes inv input y' ∧ y = y'.putOut data := by
  have hd : Program.demand (P := Script) (Run.mk inv (.writing data files next)) =
      .write data fun a => Run.mk inv (gotWrite files next a) := rfl
  exact Program.denotes_write hd input y

theorem denotes_writing (text : String) (files : Snapshot) (next : State) (input : Bytes)
    (y : Yield) : (State.writing (textLine text) files next).Denotes inv input y ↔
      ∃ y', next.Denotes inv input y' ∧ y = y'.after [textLine text] := by
  rw [denotes_data]
  simp only [Yield.putOut_eq_after, textLine_isEmpty, Bool.false_eq_true, if_false]

/-- A filter at work asks for the next line. -/
theorem denotes_filtering (f : Filter) (steps : List Step) (files : Snapshot) (input : Bytes)
    (y : Yield) : (State.filtering f steps files).Denotes inv input y ↔
      (f.gotLine steps files (.ok (LineBuffer.front input).1)).Denotes inv
        (LineBuffer.front input).2 y := by
  have hd : Program.demand (P := Script) (Run.mk inv (.filtering f steps files)) =
      .line fun a => Run.mk inv (f.gotLine steps files a) := rfl
  exact Program.denotes_line hd input y

/-- A filter that ends has its count to write, if it was to count. -/
theorem denotes_close (cells : List Cell) (total : Nat) (steps : List Step) (files : Snapshot)
    (input : Bytes) (y : Yield) :
    (Filter.close ⟨cells, count, total⟩ steps files).Denotes inv input y ↔
      ∃ y', (State.before steps files).Denotes inv input y' ∧
        y = y'.after (reported count total []) := by
  cases count with
  | false => simp [Filter.close, reported, Yield.after]
  | true => exact denotes_writing (toString total) files (.before steps files) input y

/-- A line that came through is written at once, unless the filter counts. -/
theorem denotes_wrote (text : String) (files : Snapshot) (next : State) (input : Bytes)
    (y : Yield) :
    (if count then next else .writing (textLine text) files next).Denotes inv input y ↔
      ∃ y', next.Denotes inv input y' ∧
        y = y'.after (if count then [] else [text].map textLine) := by
  cases count with
  | false => exact denotes_writing text files next input y
  | true => simp [Yield.after]

theorem reported_append (count : Bool) (total : Nat) (new more : List String) :
    (if count then [] else new.map textLine) ++ reported count total more =
      reported count total (new ++ more) := by
  cases count with
  | false => exact List.map_append.symm
  | true => rfl

/-- A filter reads no further than this line: it gets to a head that is full, or it comes through and
leaves one full. -/
def ReadsNoFurther (ops : List ReadyOp) (lines : List String) (line : String) : Prop :=
  ReachesFullHead ops lines line ∨
    HasFullHead ops (lines ++ [line]) ∧ chained ops (lines ++ [line]) ≠ chained ops lines

/-- The lines that a filter takes of those that come behind `lines`. -/
inductive LinesRead (ops : List ReadyOp) : List String → List String → List String → Prop where
  | ended (lines : List String) : LinesRead ops lines [] []
  | stopped {lines : List String} {line : String} (more : List String)
      (hstop : ReadsNoFurther ops lines line) : LinesRead ops lines (line :: more) [line]
  | on {lines more taken : List String} {line : String} (hgo : ¬ ReadsNoFurther ops lines line)
      (hrest : LinesRead ops (lines ++ [line]) more taken) :
      LinesRead ops lines (line :: more) (line :: taken)

theorem ReadsNoFurther.hasFullHead (h : ReadsNoFurther ops lines line) :
    HasFullHead ops (lines ++ [line]) := by
  rcases h with harrives | ⟨hfull, -⟩
  · exact harrives.hasFullHead.append [line]
  · exact hfull

/-- A filter takes all lines unless a head is full in the end. -/
theorem LinesRead.all_or_hasFullHead {taken : List String} (h : LinesRead ops lines more taken) :
    taken = more ∨ HasFullHead ops (lines ++ taken) := by
  induction h with
  | ended lines => exact Or.inl rfl
  | stopped more hstop => exact Or.inr hstop.hasFullHead
  | @on lines more taken line hgo hrest ih =>
    rcases ih with rfl | hfull
    · exact Or.inl rfl
    · rw [List.append_assoc] at hfull
      exact Or.inr hfull

/-- A filter that dealt with `lines` takes its share of the input, and the script goes on with what is
left. -/
def ReadsShare (inv : Invocation) (ops : List ReadyOp) (count : Bool) (lines : List String)
    (files : Snapshot) (input : Bytes) (s : List Step → State) : Prop :=
  ∃ files' left taken new,
    LineBuffer.lines input = taken ++ LineBuffer.lines left ∧
      LinesRead ops lines (LineBuffer.lines input) taken ∧
      chained ops (lines ++ taken) = chained ops lines ++ new ∧
      TeeSpec ops lines taken files files' ∧
      ∀ steps y, (s steps).Denotes inv input y ↔
        ∃ y', (State.before steps files').Denotes inv left y' ∧
          y = y'.after (reported count (chained ops (lines ++ taken)).length new)

theorem ReadsShare.congr
    (hs : ∀ steps y, (s' steps).Denotes inv input y ↔ (s steps).Denotes inv input y)
    (h : ReadsShare inv ops count lines files input s) :
    ReadsShare inv ops count lines files input s' := by
  obtain ⟨files', left, taken, new, hleft, htaking, hnew, hteed, hdenotes⟩ := h
  exact ⟨files', left, taken, new, hleft, htaking, hnew, hteed,
    fun steps y => (hs steps y).trans (hdenotes steps y)⟩

/-- At the end of its input a filter has nothing more to take. -/
theorem ReadsShare.ended (cells : List Cell) (files : Snapshot) :
    ReadsShare inv ops count lines files []
      fun steps => Filter.close ⟨cells, count, (chained ops lines).length⟩ steps files := by
  refine ⟨files, [], [], [], rfl, .ended lines, ?_, TeeSpec.refl ?_, fun steps y => ?_⟩
  · rw [List.append_nil, List.append_nil]
  · rw [List.append_nil]
    exact id
  · rw [List.append_nil]
    exact denotes_close cells _ steps files [] y

/-- A line at which the filter stops is the last that it takes. -/
theorem ReadsShare.stopped {new : List String} (cells : List Cell)
    (hlines : LineBuffer.lines input = line :: LineBuffer.lines left)
    (hstop : ReadsNoFurther ops lines line)
    (hnew : chained ops (lines ++ [line]) = chained ops lines ++ new)
    (hteed : TeeSpec ops lines [line] files files₁)
    (hs : ∀ steps y, (s steps).Denotes inv input y ↔
      ∃ y', (Filter.close ⟨cells, count, (chained ops (lines ++ [line])).length⟩ steps
          files₁).Denotes inv left y' ∧
        y = y'.after (if count then [] else new.map textLine)) :
    ReadsShare inv ops count lines files input s := by
  refine ⟨files₁, left, [line], new, hlines, hlines ▸ .stopped _ hstop, hnew, hteed,
    fun steps y => ?_⟩
  rw [hs steps y, ← List.append_nil new, ← reported_append, List.append_nil]
  constructor
  · rintro ⟨y₁, hy₁, rfl⟩
    obtain ⟨y', hy', rfl⟩ := (denotes_close cells _ steps files₁ left y₁).mp hy₁
    exact ⟨y', hy', Yield.after_after _ _ y'⟩
  · rintro ⟨y', hy', rfl⟩
    exact ⟨_, (denotes_close cells _ steps files₁ left _).mpr ⟨y', hy', rfl⟩,
      (Yield.after_after _ _ y').symm⟩

/-- A line at which it does not stop is one of the lines before, and what came of it was written. -/
theorem ReadsShare.took {new : List String}
    (hlines : LineBuffer.lines input = line :: LineBuffer.lines left)
    (hgo : ¬ ReadsNoFurther ops lines line)
    (hnew : chained ops (lines ++ [line]) = chained ops lines ++ new)
    (hteed : TeeSpec ops lines [line] files files₁)
    (hs : ∀ steps y, (s' steps).Denotes inv input y ↔
      ∃ y', (s steps).Denotes inv left y' ∧ y = y'.after (if count then [] else new.map textLine))
    (h : ReadsShare inv ops count (lines ++ [line]) files₁ left s) :
    ReadsShare inv ops count lines files input s' := by
  obtain ⟨files', rest, taken, more, hleft, htaking, hmore, hteed', hdenotes⟩ := h
  have hall : lines ++ line :: taken = lines ++ [line] ++ taken := by
    rw [List.append_assoc, List.singleton_append]
  refine ⟨files', rest, line :: taken, new ++ more, ?_, ?_, ?_, ?_, fun steps y => ?_⟩
  · rw [hlines, hleft, List.cons_append]
  · rw [hlines]
    exact .on hgo htaking
  · rw [hall, hmore, hnew, List.append_assoc]
  · rw [← List.singleton_append]
    exact hteed.trans hteed'
  · rw [hs steps y, ← reported_append, hall]
    constructor
    · rintro ⟨y₁, hy₁, rfl⟩
      obtain ⟨y', hy', rfl⟩ := (hdenotes steps y₁).mp hy₁
      exact ⟨y', hy', Yield.after_after _ _ y'⟩
    · rintro ⟨y', hy', rfl⟩
      exact ⟨_, (hdenotes steps _).mpr ⟨y', hy', rfl⟩, (Yield.after_after _ _ y').symm⟩

/-- **A filter that dealt with some lines takes its share of the others.** Without tees it does not
look at the files. -/
theorem ReadsShare.filtering (inv : Invocation) (ops : List ReadyOp) (count : Bool) (input : Bytes)
    (lines : List String) (files : Snapshot)
    (hfiles : teePaths ops ≠ [] → Snapshot.HoldsFiles files) :
    ReadsShare inv ops count lines files input fun steps =>
      .filtering ⟨cellsAfter ops lines, count, (chained ops lines).length⟩ steps files := by
  induction hlength : input.length using Nat.strongRecOn generalizing input lines files with
  | _ length ih =>
  subst hlength
  have hread : ∀ steps y, (State.filtering ⟨cellsAfter ops lines, count,
      (chained ops lines).length⟩ steps files).Denotes inv input y ↔
        (Filter.gotLine ⟨cellsAfter ops lines, count, (chained ops lines).length⟩ steps files
          (.ok (LineBuffer.front input).1)).Denotes inv (LineBuffer.front input).2 y :=
    fun steps => denotes_filtering _ steps files input
  have hlines := LineBuffer.lines_front input
  have hleft := LineBuffer.front_left input
  rcases hfront : LineBuffer.front input with ⟨line?, left⟩
  rw [hfront] at hlines hleft hread
  cases line? with
  | none =>
    obtain ⟨rfl, rfl⟩ := hleft
    exact ReadsShare.congr hread (.ended _ files)
  | some line =>
    have hpassed := pass_passed ops lines line [] false files hfiles
    have hfate := pass_lineOutcome ops lines line [] false files
    simp only [Filter.gotLine] at hread
    cases hpass : pass [] false line files (cellsAfter ops lines) with
    | broken why files₁ =>
      rw [hpass] at hpassed
      exact hpassed.elim
    | halted cells files₁ =>
      rw [hpass] at hpassed hfate hread
      obtain ⟨hsealed, hteed⟩ := hpassed
      have hnone : chained ops (lines ++ [line]) = chained ops lines ++ [] := by
        rw [hsealed.same, List.append_nil]
      refine ReadsShare.stopped cells hlines (Or.inl hfate) hnone hteed fun steps y => ?_
      rw [hread, hsealed.same]
      simp [Yield.after]
    | dropped cells files₁ =>
      rw [hpass] at hpassed hfate hread
      obtain ⟨rfl, hnone, hteed⟩ := hpassed
      have hgo : ¬ ReadsNoFurther ops lines line := fun h => h.elim hfate fun h => h.2 hnone
      refine ReadsShare.took hlines hgo (hnone.trans (List.append_nil _).symm) hteed
        (fun steps y => ?_) (ih _ hleft left (lines ++ [line]) files₁ (hteed.holds ∘ hfiles) rfl)
      rw [hread, hnone]
      simp [Yield.after]
    | through out last cells files₁ =>
      rw [hpass] at hpassed hfate hread
      obtain ⟨rfl, hout, -, hteed⟩ := hpassed
      obtain ⟨hroom, hlast⟩ := hfate
      have hgrown : chained ops (lines ++ [line]) ≠ chained ops lines := by
        rw [hout]
        exact List.append_right_eq_self.not.mpr (List.cons_ne_nil _ _)
      have hlength : (chained ops (lines ++ [line])).length = (chained ops lines).length + 1 := by
        rw [hout, List.length_append, List.length_singleton]
      cases last with
      | true =>
        have hfull := (hlast.mp rfl).resolve_left Bool.false_ne_true
        refine ReadsShare.stopped (cellsAfter ops (lines ++ [line])) hlines
          (Or.inr ⟨hfull, hgrown⟩) hout hteed fun steps y => ?_
        rw [hread, hlength]
        exact denotes_wrote out files₁ _ left y
      | false =>
        have hgo : ¬ ReadsNoFurther ops lines line := fun h =>
          h.elim (fun h => hroom h.hasFullHead) fun h => Bool.false_ne_true (hlast.mpr (Or.inr h.1))
        refine ReadsShare.took hlines hgo hout hteed (fun steps y => ?_)
          (ih _ hleft left (lines ++ [line]) files₁ (hteed.holds ∘ hfiles) rfl)
        rw [hread, hlength]
        exact denotes_wrote out files₁ _ left y

/-- A filter that dealt with `lines` goes on like this: it takes of the input what it needs, and
what its chain makes of that is written before the script goes on. -/
def FilterOutcome (inv : Invocation) (ops : List ReadyOp) (count : Bool) (lines : List String)
    (files : Snapshot) (input : Bytes) (s : List Step → State) : Prop :=
  ∃ files' left new,
    chained ops (lines ++ LineBuffer.lines input) = chained ops lines ++ new ∧
      LineBuffer.lines left <:+ LineBuffer.lines input ∧
      TeeSpec ops lines (LineBuffer.lines input) files files' ∧
      ∀ steps y, (s steps).Denotes inv input y ↔
        ∃ y', (State.before steps files').Denotes inv left y' ∧
          y = y'.after (reported count (chained ops (lines ++ LineBuffer.lines input)).length new)

/-- **A filter that dealt with some lines goes on with all the others**: nothing comes of those that it
does not take. -/
theorem FilterOutcome.filtering (inv : Invocation) (ops : List ReadyOp) (count : Bool)
    (input : Bytes) (lines : List String) (files : Snapshot)
    (hfiles : teePaths ops ≠ [] → Snapshot.HoldsFiles files) :
    FilterOutcome inv ops count lines files input fun steps =>
      .filtering ⟨cellsAfter ops lines, count, (chained ops lines).length⟩ steps files := by
  obtain ⟨files', left, taken, new, hleft, htaking, hnew, hteed, hdenotes⟩ :=
    ReadsShare.filtering inv ops count input lines files hfiles
  have hrest : chained ops (lines ++ LineBuffer.lines input) = chained ops (lines ++ taken) ∧
      TeeSpec ops lines (LineBuffer.lines input) files files' := by
    rcases htaking.all_or_hasFullHead with hall | hfull
    · rw [← hall]
      exact ⟨rfl, hteed⟩
    · have hsealed := hfull.exhausted
      rw [hleft, ← List.append_assoc]
      exact ⟨hsealed.same _, hteed.trans (TeeSpec.of_exhausted hsealed.head)⟩
  refine ⟨files', left, new, hrest.1.trans hnew, hleft ▸ List.suffix_append _ _, hrest.2, ?_⟩
  rw [hrest.1]
  exact hdenotes

theorem filtering_filterOutcome (inv : Invocation) (ops : List ReadyOp) (count : Bool)
    (input : Bytes) (lines : List String) (files : Snapshot) (hfiles : Snapshot.HoldsFiles files) :
    FilterOutcome inv ops count lines files input fun steps =>
      .filtering ⟨cellsAfter ops lines, count, (chained ops lines).length⟩ steps files :=
  FilterOutcome.filtering inv ops count input lines files fun _ => hfiles

/-! ## Filter steps -/

/-- A chain is made ready if its patterns compile. -/
theorem exists_ready {chain : List Op}
    (h : ∀ pattern invert ignoreCase, Op.grep pattern invert ignoreCase ∈ chain →
      ∃ p, Pattern.compile (expand inv pattern) ignoreCase = .ok p) :
    ∃ ops, List.Forall₂ (fun op ready => Op.ready inv op = .ok ready) chain ops := by
  induction chain with
  | nil => exact ⟨[], .nil⟩
  | cons op chain ih =>
    obtain ⟨ops, hops⟩ := ih fun pattern invert ignoreCase hmem =>
      h pattern invert ignoreCase (List.mem_cons_of_mem op hmem)
    have hop : ∃ ready, Op.ready inv op = .ok ready := by
      cases op with
      | grep pattern invert ignoreCase =>
        obtain ⟨p, hp⟩ := h pattern invert ignoreCase List.mem_cons_self
        exact ⟨.grep p invert, by simp only [Op.ready, hp]⟩
      | _ => exact ⟨_, rfl⟩
    obtain ⟨ready, hready⟩ := hop
    exact ⟨ready :: ops, .cons hready hops⟩

/-- Tees start on empty files. -/
theorem emptyTees_ok (ops : List ReadyOp) (hfiles : Snapshot.HoldsFiles files) :
    ∃ files', emptyTees files (ops.map fun op => ⟨op, 0⟩) = .ok files' ∧
      Snapshot.HoldsFiles files' ∧
      (∀ path, path ∉ teePaths ops → files'.field? path = files.field? path) ∧
      ∀ path ∈ teePaths ops, files'.field? path = some (.text "") := by
  induction ops generalizing files with
  | nil => exact ⟨files, rfl, hfiles, fun _ _ => rfl, fun _ h => by cases h⟩
  | cons op rest ih =>
    cases op with
    | tee path =>
      obtain ⟨files₁, hwrite, hfiles₁, hwritten⟩ := Snapshot.write_holdsFiles hfiles path ""
      obtain ⟨files', hempty, hfiles', hothers, htees⟩ := ih hfiles₁
      refine ⟨files', ?_, hfiles', fun other hother => ?_, fun other hother => ?_⟩
      · simp only [List.map_cons, emptyTees, hwrite]
        exact hempty
      · rw [teePaths_tee, List.mem_cons, not_or] at hother
        rw [hothers other hother.2, hwritten other, if_neg (Ne.symm hother.1)]
      · by_cases hrest : other ∈ teePaths rest
        · exact htees other hrest
        · rw [teePaths_tee, List.mem_cons] at hother
          obtain rfl := hother.resolve_right hrest
          rw [hothers other hrest, hwritten other, if_pos rfl]
    | _ => exact ih hfiles

/-- The operations of a running filter. -/
def Filter.chain (f : Filter) : List ReadyOp := f.cells.map Cell.op

/-- Where the tees of a chain were emptied, the snapshot holds files. -/
theorem emptyTees_holdsFiles (h : emptyTees files (ops.map fun op => ⟨op, 0⟩) = .ok files₁)
    (hfiles : teePaths ops ≠ [] ∨ Snapshot.HoldsFiles files) : Snapshot.HoldsFiles files₁ := by
  induction ops generalizing files with
  | nil =>
    cases h
    exact hfiles.resolve_left fun hne => hne rfl
  | cons op rest ih =>
    cases op with
    | tee path =>
      simp only [List.map_cons, emptyTees] at h
      cases hwrite : Snapshot.write files path "" with
      | error why =>
        rw [hwrite] at h
        cases h
      | ok files' =>
        rw [hwrite] at h
        exact ih h (Or.inr (Snapshot.holdsFiles_of_write hwrite))
    | _ => exact ih h hfiles

/-- A filter starts before any line, on a snapshot that takes what its tees write. -/
theorem start_chain {chain : List Op} {f : Filter}
    (h : Filter.start inv chain count files = .ok (f, files₁)) :
    f = ⟨cellsAfter f.chain [], count, 0⟩ ∧
      (teePaths f.chain ≠ [] → Snapshot.HoldsFiles files₁) := by
  unfold Filter.start at h
  cases hready : chain.mapM (Op.ready inv) with
  | error why =>
    rw [hready] at h
    cases h
  | ok ops =>
    simp only [hready] at h
    cases hempty : emptyTees files (ops.map fun op => ⟨op, 0⟩) with
    | error why =>
      rw [hempty] at h
      cases h
    | ok files' =>
      rw [hempty] at h
      cases h
      have hchain : Filter.chain ⟨ops.map fun op => ⟨op, 0⟩, count, 0⟩ = ops := by
        simp [Filter.chain, Function.comp_def]
      rw [hchain, cellsAfter_nil]
      exact ⟨rfl, fun htees => emptyTees_holdsFiles hempty (Or.inl htees)⟩

/-- **A filter writes what its chain makes of all lines, and its tees leave the lines that reached
them.** Of a chain without a head every tee has a file of its own; no other file is touched. -/
theorem filter_denotes (inv : Invocation) (chain : List Op) (count : Bool) (files : Snapshot)
    (input : Bytes)
    (hcompiles : ∀ pattern invert ignoreCase, Op.grep pattern invert ignoreCase ∈ chain →
      ∃ p, Pattern.compile (expand inv pattern) ignoreCase = .ok p)
    (hfiles : Snapshot.HoldsFiles files) :
    ∃ ops files' left, List.Forall₂ (fun op ready => Op.ready inv op = .ok ready) chain ops ∧
      LineBuffer.lines left <:+ LineBuffer.lines input ∧
      (∀ steps y, (State.before (.filter chain count :: steps) files).Denotes inv input y ↔
        ∃ y', (State.before steps files').Denotes inv left y' ∧
          y = y'.after (reported count (chained ops (LineBuffer.lines input)).length
            (chained ops (LineBuffer.lines input)))) ∧
      ((∀ limit, ReadyOp.head limit ∉ ops) → (teePaths ops).Nodup →
        TeesHold ops (LineBuffer.lines input) files') ∧
      ∀ path, path ∉ teePaths ops → files'.field? path = files.field? path := by
  obtain ⟨ops, hready⟩ := exists_ready hcompiles
  obtain ⟨files₁, hempty, hfiles₁, hothers, htees⟩ := emptyTees_ok ops hfiles
  obtain ⟨files', left, new, hnew, hleft, hteed, hdenotes⟩ :=
    filtering_filterOutcome inv ops count input [] files₁ hfiles₁
  rw [chained_nil, List.nil_append, List.nil_append] at hnew
  simp only [chained_nil, List.nil_append, List.length_nil, ← hnew] at hdenotes
  have hstart : Filter.start inv chain count files = .ok (⟨cellsAfter ops [], count, 0⟩, files₁) := by
    simp only [Filter.start, mapM_eq_ok.mpr hready, hempty, cellsAfter_nil]
  have hholds : TeesHold ops [] files₁ := by
    rintro before path after rfl
    have hmem : path ∈ teePaths (before ++ .tee path :: after) :=
      List.mem_filterMap.mpr ⟨.tee path, by simp, rfl⟩
    rw [Snapshot.read?, htees path hmem, chained_nil]
    rfl
  refine ⟨ops, files', left, hready, hleft, fun steps y => ?_, ?_, ?_⟩
  · have hd : Program.demand (P := Script) (Run.mk inv (.before (.filter chain count :: steps) files))
        = .line fun a => Run.mk inv (Filter.gotLine ⟨cellsAfter ops [], count, 0⟩ steps files₁ a) := by
      show Demand.map _ (begin inv (.filter chain count :: steps) files) = _
      simp only [begin, hstart]
      rfl
    have hfilter :
      (State.filtering ⟨cellsAfter ops [], count, 0⟩ steps files₁).Denotes inv input y ↔
        _ := denotes_filtering _ steps files₁ input y
    exact ((Program.denotes_line hd input y).trans hfilter.symm).trans (hdenotes steps y)
  · intro hheads hnodup
    exact hteed.tees hheads hnodup hholds
  · intro path hpath
    rw [hteed.others path hpath, hothers path hpath]

/-- A line that does not match is left out, and the one behind it is the first that is numbered. -/
theorem filter_denotes_matching :
    (∀ pattern invert ignoreCase,
      Op.grep pattern invert ignoreCase ∈ [.grep "b" false false, .number, .tee "out"] →
        ∃ p, Pattern.compile (expand ⟨[], [], .null⟩ pattern) ignoreCase = .ok p) ∧
    Snapshot.HoldsFiles .null ∧
    ∃ files', Snapshot.read? files' "out" = some "     1\tb\n" ∧
      ∀ y, (State.before [.filter [.grep "b" false false, .number, .tee "out"] false] .null).Denotes
        ⟨[], [], .null⟩ (Utf8.encode "a\nb\n") y ↔ y = ⟨[textLine "     1\tb"], .done, files'⟩ := by
  have hcompiles : ∀ pattern invert ignoreCase,
      Op.grep pattern invert ignoreCase ∈ [.grep "b" false false, .number, .tee "out"] →
        ∃ p, Pattern.compile (expand ⟨[], [], .null⟩ pattern) ignoreCase = .ok p := by
    intro pattern invert ignoreCase hmem
    simp only [List.mem_cons, Op.grep.injEq, reduceCtorEq, List.not_mem_nil, or_false] at hmem
    obtain ⟨rfl, rfl, rfl⟩ := hmem
    exact ⟨_, rfl⟩
  refine ⟨hcompiles, trivial, ?_⟩
  obtain ⟨ops, files', left, hready, -, hdenotes, htees, -⟩ := filter_denotes ⟨[], [], .null⟩
    [.grep "b" false false, .number, .tee "out"] false .null (Utf8.encode "a\nb\n") hcompiles trivial
  have hout : chained ops (LineBuffer.lines (Utf8.encode "a\nb\n")) = ["     1\tb"] := by
    obtain _ | ⟨⟨⟩, _ | ⟨⟨⟩, _ | ⟨⟨⟩, ⟨⟩⟩⟩⟩ := hready
    decide +kernel
  have hfile : Snapshot.read? files' "out" = some "     1\tb\n" := by
    obtain _ | ⟨⟨⟩, _ | ⟨⟨⟩, _ | ⟨⟨⟩, ⟨⟩⟩⟩⟩ := hready
    exact htees (by simp) (by decide +kernel) [_, .number] "out" [] rfl
  have hd : Program.demand (P := Script) (Run.mk ⟨[], [], .null⟩ (.before [] files')) =
      .finish .done files' := rfl
  rw [hout] at hdenotes
  refine ⟨files', hfile, fun y => (hdenotes [] y).trans ⟨?_, fun hy => ?_⟩⟩
  · rintro ⟨y', hy', rfl⟩
    rw [(Program.denotes_finish hd left y').mp hy']
    rfl
  · exact ⟨_, (Program.denotes_finish hd left _).mpr rfl, hy⟩

end Script

end Pipework
