import Mathlib.Data.List.Induction
import Pipework.Proofs.Snapshot
import Pipework.Script.Run

/-!
# Chains as list functions

What a chain makes of all lines at once: each operation is taken as a function on lists
(`ReadyOp.onLines`, `chained`).

* `IsFullHead`, `ReachesFullHead` — a head has got all its lines, and a line gets to such a head.
* `cellsAfter` — the counters of a chain that some lines have been sent into; they are what is left
  of those lines.
* `pass_cases` — what an operation does with one more line: it hands on what it adds to its list, or
  it ends the way of the line.
* `pass_passed`, `pass_lineOutcome` — the line in the whole chain, by induction on the operations.
-/

namespace Pipework

namespace Script

/-! ## Chains on whole lists -/

/-- What an operation makes of all lines that reach it. -/
def ReadyOp.onLines : ReadyOp → List String → List String
  | .map t, lines => lines.map t.apply
  | .grep p invert, lines => lines.filter fun line => p.isMatch line != invert
  | .head limit, lines => lines.take limit
  | .number, lines => lines.mapIdx fun i line => Numeral.padLeft 6 (i + 1) ++ "\t" ++ line
  | .lead text, lines => lines.map (text ++ ·)
  | .tee _, lines => lines

def chained (ops : List ReadyOp) (lines : List String) : List String :=
  ops.foldl (fun lines op => op.onLines lines) lines

variable {op : ReadyOp} {ops rest : List ReadyOp} {line line' : String} {lines more : List String}

theorem onLines_nil (op : ReadyOp) : op.onLines [] = [] := by
  cases op with
  | head limit => exact List.take_nil
  | _ => rfl

/-- More lines never change what an operation made of the first ones. -/
theorem onLines_prefix (op : ReadyOp) (lines more : List String) :
    op.onLines lines <+: op.onLines (lines ++ more) := by
  cases op with
  | map t => exact ⟨_, List.map_append.symm⟩
  | grep p invert => exact ⟨_, (List.filter_append ..).symm⟩
  | head limit => exact ⟨_, List.take_append.symm⟩
  | number => exact ⟨_, List.mapIdx_append.symm⟩
  | lead text => exact ⟨_, List.map_append.symm⟩
  | tee path => exact List.prefix_append lines more

theorem chained_cons (op : ReadyOp) (rest : List ReadyOp) (lines : List String) :
    chained (op :: rest) lines = chained rest (op.onLines lines) := rfl

theorem chained_append (ops rest : List ReadyOp) (lines : List String) :
    chained (ops ++ rest) lines = chained rest (chained ops lines) := List.foldl_append

theorem chained_nil (ops : List ReadyOp) : chained ops [] = [] := by
  induction ops with
  | nil => rfl
  | cons op rest ih => rw [chained_cons, onLines_nil, ih]

/-- More lines never change what the chain made of the first ones. -/
theorem chained_extends (ops : List ReadyOp) (lines more : List String) :
    chained ops lines <+: chained ops (lines ++ more) := by
  induction ops generalizing lines more with
  | nil => exact List.prefix_append lines more
  | cons op rest ih =>
    obtain ⟨new, hnew⟩ := onLines_prefix op lines more
    rw [chained_cons, chained_cons, ← hnew]
    exact ih _ new

/-- Some head of the chain is full, and nothing comes of whatever follows. -/
structure Exhausted (ops : List ReadyOp) (lines : List String) : Prop where
  head : ∃ limit, ReadyOp.head limit ∈ ops
  same : ∀ more, chained ops (lines ++ more) = chained ops lines

theorem Exhausted.cons (h : Exhausted rest (op.onLines lines)) : Exhausted (op :: rest) lines where
  head := h.head.imp fun _ => List.mem_cons_of_mem op
  same := by
    intro more
    obtain ⟨new, hnew⟩ := onLines_prefix op lines more
    rw [chained_cons, chained_cons, ← hnew]
    exact h.same new

theorem Exhausted.of_head {limit : Nat} (h : limit ≤ lines.length) :
    Exhausted (.head limit :: rest) lines where
  head := ⟨limit, List.mem_cons_self⟩
  same := by
    intro more
    show chained rest ((lines ++ more).take limit) = chained rest (lines.take limit)
    rw [List.take_append_of_le_length h]

/-! ## Full heads -/

/-- A head that has got as many lines as it lets through. -/
def ReadyOp.IsFullHead : ReadyOp → List String → Prop
  | .head limit, lines => limit ≤ lines.length
  | _, _ => False

/-- Some head of the chain is full. -/
def HasFullHead (ops : List ReadyOp) (lines : List String) : Prop :=
  ∃ before op after, ops = before ++ op :: after ∧ op.IsFullHead (chained before lines)

/-- A line gets as far as a head that is full. -/
def ReachesFullHead (ops : List ReadyOp) (lines : List String) (line : String) : Prop :=
  ∃ before op after, ops = before ++ op :: after ∧ op.IsFullHead (chained before lines) ∧
    chained before (lines ++ [line]) ≠ chained before lines

/-- A head that is not full lets a line through. -/
theorem onLines_head {limit : Nat} (h : lines.length < limit) (line : String) :
    (ReadyOp.head limit).onLines (lines ++ [line]) =
      (ReadyOp.head limit).onLines lines ++ [line] := by
  simp only [ReadyOp.onLines]
  rw [List.take_of_length_le (by simp; omega), List.take_of_length_le (by omega)]

/-- An operation makes one line of one line, but for a grep and for a head that is full. -/
theorem onLines_concat (op : ReadyOp) (lines : List String) (line : String) :
    (∃ line', op.onLines (lines ++ [line]) = op.onLines lines ++ [line']) ∨
      op.onLines (lines ++ [line]) = op.onLines lines ∧
        ((∃ p invert, op = .grep p invert) ∨ op.IsFullHead lines) := by
  cases op with
  | map t => exact Or.inl ⟨_, List.map_append⟩
  | lead text => exact Or.inl ⟨_, List.map_append⟩
  | number => exact Or.inl ⟨_, List.mapIdx_concat⟩
  | tee path => exact Or.inl ⟨_, rfl⟩
  | grep p invert =>
    simp only [ReadyOp.onLines, List.filter_append, List.filter_singleton]
    cases hmatch : p.isMatch line != invert with
    | true => exact Or.inl ⟨line, rfl⟩
    | false => exact Or.inr ⟨List.append_nil _, Or.inl ⟨p, invert, rfl⟩⟩
  | head limit =>
    by_cases hroom : lines.length < limit
    · exact Or.inl ⟨line, onLines_head hroom line⟩
    · have hle := Nat.not_lt.mp hroom
      exact Or.inr ⟨List.take_append_of_le_length hle, Or.inr hle⟩

theorem not_hasFullHead_nil : ¬ HasFullHead [] lines := by
  rintro ⟨before, op, after, heq, -⟩
  cases before <;> cases heq

theorem hasFullHead_cons : HasFullHead (op :: rest) lines ↔ op.IsFullHead lines ∨
    HasFullHead rest (op.onLines lines) := by
  constructor
  · rintro ⟨before, op', after, heq, hfull⟩
    cases before with
    | nil =>
      cases heq
      exact Or.inl hfull
    | cons first before =>
      cases heq
      exact Or.inr ⟨before, op', after, rfl, hfull⟩
  · rintro (hfull | ⟨before, op', after, rfl, hfull⟩)
    · exact ⟨[], op, rest, rfl, hfull⟩
    · exact ⟨op :: before, op', after, rfl, hfull⟩

theorem reachesFullHead_of_full (h : op.IsFullHead lines) :
    ReachesFullHead (op :: rest) lines line :=
  ⟨[], op, rest, rfl, h, by simp [chained]⟩

/-- A line that an operation hands on gets to what it gets to behind that operation. -/
theorem reachesFullHead_cons (hroom : ¬ op.IsFullHead lines)
    (hnew : op.onLines (lines ++ [line]) = op.onLines lines ++ [line']) :
    ReachesFullHead (op :: rest) lines line ↔ ReachesFullHead rest (op.onLines lines) line' := by
  constructor
  · rintro ⟨before, op', after, heq, hfull, hgrown⟩
    cases before with
    | nil =>
      cases heq
      exact (hroom hfull).elim
    | cons first before =>
      cases heq
      refine ⟨before, op', after, rfl, hfull, ?_⟩
      rwa [chained_cons, hnew] at hgrown
  · rintro ⟨before, op', after, rfl, hfull, hgrown⟩
    refine ⟨op :: before, op', after, rfl, hfull, ?_⟩
    rwa [chained_cons, hnew]

/-- A line that an operation makes nothing of gets no further. -/
theorem not_reachesFullHead_cons (hroom : ¬ op.IsFullHead lines)
    (hsame : op.onLines (lines ++ [line]) = op.onLines lines) :
    ¬ ReachesFullHead (op :: rest) lines line := by
  rintro ⟨before, op', after, heq, hfull, hgrown⟩
  cases before with
  | nil =>
    cases heq
    exact hroom hfull
  | cons first before =>
    cases heq
    exact hgrown (congrArg (chained before) hsame)

theorem ReachesFullHead.hasFullHead (h : ReachesFullHead ops lines line) :
    HasFullHead ops lines := by
  obtain ⟨before, op, after, heq, hfull, -⟩ := h
  exact ⟨before, op, after, heq, hfull⟩

/-- Nothing comes of a line behind a head that is full. -/
theorem HasFullHead.exhausted (h : HasFullHead ops lines) : Exhausted ops lines := by
  induction ops generalizing lines with
  | nil => exact (not_hasFullHead_nil h).elim
  | cons op rest ih =>
    rcases hasFullHead_cons.mp h with hop | hrest
    · cases op with
      | head limit => exact Exhausted.of_head hop
      | _ => exact hop.elim
    · exact (ih hrest).cons

/-- A head that is full stays so. -/
theorem HasFullHead.append (h : HasFullHead ops lines) (more : List String) :
    HasFullHead ops (lines ++ more) := by
  obtain ⟨before, op, after, rfl, hfull⟩ := h
  refine ⟨before, op, after, rfl, ?_⟩
  cases op with
  | head limit => exact Nat.le_trans hfull (chained_extends before lines more).length_le
  | _ => exact hfull.elim

/-! ## Counters -/

/-- What an operation has counted of the lines that reached it. -/
def ReadyOp.seen : ReadyOp → List String → Nat
  | .head limit, lines => min limit lines.length
  | .number, lines => lines.length
  | _, _ => 0

/-- The cells of a chain after so many lines. -/
def cellsAfter : List ReadyOp → List String → List Cell
  | [], _ => []
  | op :: rest, lines => ⟨op, op.seen lines⟩ :: cellsAfter rest (op.onLines lines)

theorem cellsAfter_nil (ops : List ReadyOp) :
    cellsAfter ops [] = ops.map fun op => ⟨op, 0⟩ := by
  induction ops with
  | nil => rfl
  | cons op rest ih =>
    have hseen : op.seen [] = 0 := by
      cases op with
      | head limit => exact Nat.min_zero limit
      | _ => rfl
    rw [cellsAfter, hseen, onLines_nil, ih, List.map_cons]

/-! ## Files of a chain -/

def ReadyOp.teePath? : ReadyOp → Option String
  | .tee path => some path
  | _ => none

def teePaths (ops : List ReadyOp) : List String := ops.filterMap ReadyOp.teePath?

theorem teePaths_tee (path : String) (rest : List ReadyOp) :
    teePaths (.tee path :: rest) = path :: teePaths rest := rfl

/-- Lines as a file holds them. -/
def fileText (lines : List String) : String := String.join (lines.map (· ++ "\n"))

/-- Every tee of the chain has the lines that reached it in its file. -/
def TeesHold (ops : List ReadyOp) (lines : List String) (files : Snapshot) : Prop :=
  ∀ before path after, ops = before ++ .tee path :: after →
    Snapshot.read? files path = some (fileText (chained before lines))

variable {files files₁ files₂ : Snapshot}

theorem teesHold_cons : TeesHold (op :: rest) lines files ↔
    (∀ path, op = .tee path → Snapshot.read? files path = some (fileText lines)) ∧
      TeesHold rest (op.onLines lines) files := by
  constructor
  · intro h
    refine ⟨?_, ?_⟩
    · rintro path rfl
      exact h [] path rest rfl
    · rintro before path after rfl
      exact h (op :: before) path after rfl
  · rintro ⟨hop, hrest⟩ before path after heq
    cases before with
    | nil =>
      cases heq
      exact hop path rfl
    | cons first before =>
      cases heq
      exact hrest before path after rfl

theorem TeesHold.frame (h : TeesHold ops lines files)
    (hsame : ∀ path ∈ teePaths ops, files₁.field? path = files.field? path) :
    TeesHold ops lines files₁ := by
  rintro before path after rfl
  have hmem : path ∈ teePaths (before ++ .tee path :: after) :=
    List.mem_filterMap.mpr ⟨.tee path, by simp, rfl⟩
  rw [Snapshot.read?, hsame path hmem]
  exact h before path after rfl

/-- What a chain has done to the files when `more` came behind `lines`. -/
structure TeeSpec (ops : List ReadyOp) (lines more : List String) (files files₁ : Snapshot) :
    Prop where
  holds : Snapshot.HoldsFiles files → Snapshot.HoldsFiles files₁
  others : ∀ path, path ∉ teePaths ops → files₁.field? path = files.field? path
  tees : (∀ limit, ReadyOp.head limit ∉ ops) → (teePaths ops).Nodup →
    TeesHold ops lines files → TeesHold ops (lines ++ more) files₁

theorem TeeSpec.refl (hsame : TeesHold ops lines files → TeesHold ops (lines ++ more) files) :
    TeeSpec ops lines more files files := ⟨id, fun _ _ => rfl, fun _ _ => hsame⟩

theorem TeeSpec.of_exhausted (hs : ∃ limit, ReadyOp.head limit ∈ ops) :
    TeeSpec ops lines more files files where
  holds := id
  others := fun _ _ => rfl
  tees := fun hnone => (hs.elim hnone).elim

theorem TeeSpec.trans {more' : List String} (h : TeeSpec ops lines more files files₁)
    (h' : TeeSpec ops (lines ++ more) more' files₁ files₂) :
    TeeSpec ops lines (more ++ more') files files₂ where
  holds := fun hfiles => h'.holds (h.holds hfiles)
  others := fun path hpath => (h'.others path hpath).trans (h.others path hpath)
  tees := by
    intro hheads hnodup hhold
    rw [← List.append_assoc]
    exact h'.tees hheads hnodup (h.tees hheads hnodup hhold)

/-- An operation that is no tee leaves the files to the others. -/
theorem TeeSpec.cons {new : List String} (hop : op.teePath? = none)
    (hnew : op.onLines (lines ++ more) = op.onLines lines ++ new)
    (h : TeeSpec rest (op.onLines lines) new files files₁) :
    TeeSpec (op :: rest) lines more files files₁ := by
  have hpaths : teePaths (op :: rest) = teePaths rest := List.filterMap_cons_none hop
  have hno : ∀ path, op ≠ .tee path := by
    rintro path rfl
    cases hop
  refine ⟨h.holds, ?_, ?_⟩
  · rw [hpaths]
    exact h.others
  · intro hheads hnodup hhold
    rw [hpaths] at hnodup
    refine teesHold_cons.mpr ⟨fun path hpath => (hno path hpath).elim, ?_⟩
    rw [hnew]
    exact h.tees (fun limit hmem => hheads limit (List.mem_cons_of_mem op hmem)) hnodup
      (teesHold_cons.mp hhold).2

/-- A tee adds the line to its file, and the operations behind it do not touch that file. -/
theorem TeeSpec.cons_tee {path : String} (hfiles₁ : Snapshot.HoldsFiles files₁)
    (hwritten : ∀ other, files₁.field? other =
      if path = other then some (.text ((Snapshot.read? files path).getD "" ++ line ++ "\n"))
      else files.field? other)
    (h : TeeSpec rest lines [line] files₁ files₂) :
    TeeSpec (.tee path :: rest) lines [line] files files₂ := by
  refine ⟨fun _ => h.holds hfiles₁, ?_, ?_⟩
  · intro other hother
    rw [teePaths_tee, List.mem_cons, not_or] at hother
    rw [h.others other hother.2, hwritten other, if_neg (Ne.symm hother.1)]
  · intro hheads hnodup hhold
    rw [teePaths_tee, List.nodup_cons] at hnodup
    obtain ⟨hfirst, hrest⟩ := teesHold_cons.mp hhold
    refine teesHold_cons.mpr ⟨?_, ?_⟩
    · rintro _ ⟨⟩
      rw [Snapshot.read?, h.others path hnodup.1, hwritten path, if_pos rfl, hfirst path rfl]
      simp [fileText, Json.text?, String.join_append, String.append_assoc]
    · refine h.tees (fun limit hmem => hheads limit (List.mem_cons_of_mem _ hmem)) hnodup.2
        (TeesHold.frame hrest fun other hother => ?_)
      rw [hwritten other, if_neg]
      rintro rfl
      exact hnodup.1 hother

/-! ## One line -/

/-- What became of a line in a chain that `lines` were sent into before. -/
def Passed (ops : List ReadyOp) (lines : List String) (line : String) (before : List Cell)
    (last : Bool) (files : Snapshot) : LineResult → Prop
  | .through out last₁ cells files₁ =>
    cells = before.reverse ++ cellsAfter ops (lines ++ [line]) ∧
      chained ops (lines ++ [line]) = chained ops lines ++ [out] ∧
      (last₁ = true → last = true ∨ Exhausted ops (lines ++ [line])) ∧
      TeeSpec ops lines [line] files files₁
  | .dropped cells files₁ =>
    cells = before.reverse ++ cellsAfter ops (lines ++ [line]) ∧
      chained ops (lines ++ [line]) = chained ops lines ∧ TeeSpec ops lines [line] files files₁
  | .halted _ files₁ => Exhausted ops lines ∧ TeeSpec ops lines [line] files files₁
  | .broken .. => False

/-- An operation that adds a line to its list hands that line on to the chain behind it. -/
theorem Passed.cons {before : List Cell} {last last₁ : Bool} {p : LineResult}
    (hnew : op.onLines (lines ++ [line]) = op.onLines lines ++ [line'])
    (hlast : last₁ = true → last = true ∨ Exhausted (op :: rest) (lines ++ [line]))
    (hteed : ∀ files₂, TeeSpec rest (op.onLines lines) [line'] files₁ files₂ →
      TeeSpec (op :: rest) lines [line] files files₂)
    (h : Passed rest (op.onLines lines) line' (⟨op, op.seen (lines ++ [line])⟩ :: before) last₁
      files₁ p) : Passed (op :: rest) lines line before last files p := by
  have hcells : (⟨op, op.seen (lines ++ [line])⟩ :: before : List Cell).reverse ++
      cellsAfter rest (op.onLines lines ++ [line']) =
        before.reverse ++ cellsAfter (op :: rest) (lines ++ [line]) := by
    rw [cellsAfter, hnew, List.reverse_cons, List.append_assoc, List.singleton_append]
  cases p with
  | through out last₂ cells files₂ =>
    obtain ⟨rfl, hout, hlast₂, hfiles⟩ := h
    refine ⟨hcells, ?_, fun hl => ?_, hteed _ hfiles⟩
    · rw [chained_cons, hnew]
      exact hout
    · rcases hlast₂ hl with hl | hsealed
      · exact hlast hl
      · exact Or.inr (Exhausted.cons (hnew ▸ hsealed))
  | dropped cells files₂ =>
    obtain ⟨rfl, hout, hfiles⟩ := h
    refine ⟨hcells, ?_, hteed _ hfiles⟩
    rw [chained_cons, hnew]
    exact hout
  | halted cells files₂ => exact ⟨h.1.cons, hteed _ h.2⟩
  | broken why files₂ => exact h

/-- An operation that hands a line on leaves the files alone, but for a tee, which adds the line to
its own. -/
def ReadyOp.TeeFrame (op : ReadyOp) (line : String) (files files₁ : Snapshot) : Prop :=
  match op with
  | .tee path =>
    Snapshot.write files path ((Snapshot.read? files path).getD "" ++ line ++ "\n") = .ok files₁
  | _ => files₁ = files

/-- What becomes of a line at the first operation of a chain. -/
inductive SendCases (op : ReadyOp) (rest : List ReadyOp) (lines : List String) (line : String)
    (before : List Cell) (last : Bool) (files : Snapshot) : LineResult → Prop where
  | on {line' : String} {last₁ : Bool} {files₁ : Snapshot} (hroom : ¬ op.IsFullHead lines)
      (hnew : op.onLines (lines ++ [line]) = op.onLines lines ++ [line'])
      (hlast : last₁ = true ↔ last = true ∨ op.IsFullHead (lines ++ [line]))
      (hwrote : op.TeeFrame line files files₁) : SendCases op rest lines line before last files
        (pass (⟨op, op.seen (lines ++ [line])⟩ :: before) last₁ line' files₁
          (cellsAfter rest (op.onLines lines)))
  | dropped (hroom : ¬ op.IsFullHead lines) (hop : op.teePath? = none)
      (hsame : op.onLines (lines ++ [line]) = op.onLines lines) :
      SendCases op rest lines line before last files
        (.dropped (before.reverse ++ cellsAfter (op :: rest) (lines ++ [line])) files)
  | halted (cells : List Cell) (hfull : op.IsFullHead lines) :
      SendCases op rest lines line before last files (.halted cells files)
  | broken {path : String} {why : Fault} (hop : op = .tee path)
      (hfault : Snapshot.write files path ((Snapshot.read? files path).getD "" ++ line ++ "\n") =
        .error why) : SendCases op rest lines line before last files (.broken why files)

/-- An operation that makes one line of every line always hands a line on. -/
theorem SendCases.mapped {before : List Cell} {last : Bool} (hroom : ∀ lines, ¬ op.IsFullHead lines)
    (hnew : op.onLines (lines ++ [line]) = op.onLines lines ++ [line'])
    (hwrote : op.TeeFrame line files files₁) : SendCases op rest lines line before last files
      (pass (⟨op, op.seen (lines ++ [line])⟩ :: before) last line' files₁
        (cellsAfter rest (op.onLines lines))) :=
  .on (hroom lines) hnew ⟨Or.inl, fun h => h.resolve_right (hroom _)⟩ hwrote

/-- **An operation hands a line on, or it ends its way.** -/
theorem pass_cases (op : ReadyOp) (rest : List ReadyOp) (lines : List String) (line : String)
    (before : List Cell) (last : Bool) (files : Snapshot) :
    SendCases op rest lines line before last files
      (pass before last line files (cellsAfter (op :: rest) lines)) := by
  cases op with
  | map t => exact .mapped (fun _ => id) List.map_append rfl
  | lead text => exact .mapped (fun _ => id) List.map_append rfl
  | number =>
    have hseen : ReadyOp.number.seen (lines ++ [line]) = lines.length + 1 := List.length_append
    have hsent : SendCases .number rest lines line before last files _ :=
      .mapped (fun _ => id) List.mapIdx_concat rfl
    rw [hseen] at hsent
    exact hsent
  | grep p invert =>
    unfold cellsAfter pass
    simp only
    split
    · rename_i hdrop
      have hsame : (ReadyOp.grep p invert).onLines (lines ++ [line]) =
          (ReadyOp.grep p invert).onLines lines := by
        simp [ReadyOp.onLines, List.filter_append, hdrop]
      have hcells : (⟨.grep p invert, ReadyOp.seen (.grep p invert) lines⟩ : Cell) ::
          cellsAfter rest ((ReadyOp.grep p invert).onLines lines) =
            cellsAfter (.grep p invert :: rest) (lines ++ [line]) := by
        rw [cellsAfter, hsame]
        rfl
      rw [hcells]
      exact .dropped id rfl hsame
    · rename_i hkeep
      have hnew : (ReadyOp.grep p invert).onLines (lines ++ [line]) =
          (ReadyOp.grep p invert).onLines lines ++ [line] := by
        simp [ReadyOp.onLines, List.filter_append, hkeep]
      exact .mapped (fun _ => id) hnew rfl
  | head limit =>
    unfold cellsAfter pass
    simp only
    split
    · rename_i hfull
      refine .halted _ ?_
      simp only [ReadyOp.seen] at hfull
      show limit ≤ lines.length
      omega
    · rename_i hroom
      have hlt : lines.length < limit := by
        simp only [ReadyOp.seen] at hroom
        omega
      have hseen : (ReadyOp.head limit).seen (lines ++ [line]) =
          (ReadyOp.head limit).seen lines + 1 := by
        simp only [ReadyOp.seen, List.length_append, List.length_singleton]
        omega
      have hfills : min limit (lines.length + 1) = limit ↔ limit ≤ lines.length + 1 := by omega
      have hlast : (last || (ReadyOp.head limit).seen (lines ++ [line]) == limit) = true ↔
          last = true ∨ (ReadyOp.head limit).IsFullHead (lines ++ [line]) := by
        simp only [Bool.or_eq_true, beq_iff_eq, ReadyOp.seen, ReadyOp.IsFullHead,
          List.length_append,
          List.length_singleton, hfills]
      rw [← hseen]
      exact .on (Nat.not_le.mpr hlt) (onLines_head hlt line) hlast rfl
  | tee path =>
    unfold cellsAfter pass
    simp only
    split
    · rename_i files₁ hwrite
      exact .mapped (fun _ => id) rfl hwrite
    · rename_i why hfault
      exact .broken rfl hfault

/-- What a chain does to the files with a line that its first operation hands on is what that
operation and the chain behind it do. -/
theorem ReadyOp.TeeFrame.teeSpec (hwrote : op.TeeFrame line files files₁)
    (hnew : op.onLines (lines ++ [line]) = op.onLines lines ++ [line'])
    (hfiles : teePaths (op :: rest) ≠ [] → Snapshot.HoldsFiles files) :
    (teePaths rest ≠ [] → Snapshot.HoldsFiles files₁) ∧
      ∀ files₂, TeeSpec rest (op.onLines lines) [line'] files₁ files₂ →
        TeeSpec (op :: rest) lines [line] files files₂ := by
  cases op with
  | tee path =>
    obtain rfl : line = line' := by simpa [ReadyOp.onLines] using hnew
    obtain ⟨_, hwrite, hfiles₁, hwritten⟩ := Snapshot.write_holdsFiles
      (hfiles (List.cons_ne_nil _ _)) path ((Snapshot.read? files path).getD "" ++ line ++ "\n")
    cases hwrite.symm.trans hwrote
    exact ⟨fun _ => hfiles₁, fun _ => TeeSpec.cons_tee hfiles₁ hwritten⟩
  | _ =>
    cases hwrote
    exact ⟨hfiles, fun _ => TeeSpec.cons rfl hnew⟩

/-- **A line goes through a chain as the last of all lines so far.** Only tees need files. -/
theorem pass_passed (ops : List ReadyOp) (lines : List String) (line : String)
    (before : List Cell) (last : Bool) (files : Snapshot)
    (hfiles : teePaths ops ≠ [] → Snapshot.HoldsFiles files) :
    Passed ops lines line before last files (pass before last line files (cellsAfter ops lines)) := by
  induction ops generalizing lines line before last files with
  | nil =>
    exact ⟨(List.append_nil _).symm, rfl, Or.inl,
      TeeSpec.refl fun _ before path after h => by simp at h⟩
  | cons op rest ih =>
    have hsent := pass_cases op rest lines line before last files
    generalize pass before last line files (cellsAfter (op :: rest) lines) = p at hsent ⊢
    cases hsent with
    | on hroom hnew hlast hwrote =>
      obtain ⟨hfiles₁, hteed⟩ := hwrote.teeSpec hnew hfiles
      exact Passed.cons hnew (fun h => (hlast.mp h).imp_right fun hfull =>
        (hasFullHead_cons.mpr (Or.inl hfull)).exhausted) hteed (ih _ _ _ _ _ hfiles₁)
    | dropped hroom hop hsame =>
      have hnone : op.onLines (lines ++ [line]) = op.onLines lines ++ [] := by
        rw [hsame, List.append_nil]
      refine ⟨rfl, ?_, TeeSpec.cons hop hnone (TeeSpec.refl ?_)⟩
      · rw [chained_cons, hsame, chained_cons]
      · rw [List.append_nil]
        exact id
    | halted cells hfull =>
      have hsealed :=
        (hasFullHead_cons.mpr (Or.inl hfull) : HasFullHead (op :: rest) lines).exhausted
      exact ⟨hsealed, TeeSpec.of_exhausted hsealed.head⟩
    | broken hop hfault =>
      subst hop
      obtain ⟨_, hwrite, -⟩ := Snapshot.write_holdsFiles (hfiles (List.cons_ne_nil _ _)) _ _
      cases hwrite.symm.trans hfault

/-- What the way of a line tells of the heads of the chain. -/
def LineOutcome (ops : List ReadyOp) (lines : List String) (line : String) (last : Bool) :
    LineResult → Prop
  | .through _ last₁ _ _ =>
    ¬ HasFullHead ops lines ∧ (last₁ = true ↔ last = true ∨ HasFullHead ops (lines ++ [line]))
  | .dropped .. => ¬ ReachesFullHead ops lines line
  | .halted .. => ReachesFullHead ops lines line
  | .broken .. => True

/-- **A line halts exactly where it gets to a head that is full**, and it is the last one if it fills
a head and comes through. -/
theorem pass_lineOutcome (ops : List ReadyOp) (lines : List String) (line : String)
    (before : List Cell) (last : Bool) (files : Snapshot) :
    LineOutcome ops lines line last (pass before last line files (cellsAfter ops lines)) := by
  induction ops generalizing lines line before last files with
  | nil => exact ⟨not_hasFullHead_nil, Or.inl, fun h => h.resolve_right not_hasFullHead_nil⟩
  | cons op rest ih =>
    have hsent := pass_cases op rest lines line before last files
    generalize pass before last line files (cellsAfter (op :: rest) lines) = p at hsent ⊢
    cases hsent with
    | on hroom hnew hlast hwrote =>
      rename_i line' last₁ files₁
      have hrest := ih (op.onLines lines) line' (⟨op, op.seen (lines ++ [line])⟩ :: before) last₁
        files₁
      revert hrest
      cases pass _ last₁ line' files₁ (cellsAfter rest (op.onLines lines)) with
      | through out last₂ cells files₂ =>
        rintro ⟨hfull, hlast₂⟩
        refine ⟨fun h => (hasFullHead_cons.mp h).elim hroom hfull, ?_⟩
        rw [hlast₂, hlast, or_assoc, hasFullHead_cons, hnew]
      | dropped cells files₂ => exact fun hrest => mt (reachesFullHead_cons hroom hnew).mp hrest
      | halted cells files₂ => exact (reachesFullHead_cons hroom hnew).mpr
      | broken why files₂ => exact id
    | dropped hroom hop hsame => exact not_reachesFullHead_cons hroom hsame
    | halted cells hfull => exact reachesFullHead_of_full hfull
    | broken hop hfault => trivial

end Script

end Pipework
