import Pipework.Proofs.Script.Sequence
import Pipework.Script.Compile

/-!
# Filters that share an input

The filters of a script read one input one after another, each from where the one before it left off
(`SharesInput`). A filter should leave off where a head of its chain gets full (`FillsHead`). It
does if the line that fills the head comes through; otherwise it reads on, up to the first line that
gets to the head, and that line comes to nothing (`TakesLines`).

* `LinesRead.takesLines` — the contract, from the lines that a filter takes one by one.
* `FillsHead.comes_through` — no line is lost where every head lets some line through and has no
  grep behind it.
* `shares_input` — the whole script, by induction on its steps.
-/

namespace Pipework

namespace Script

variable {inv : Invocation} {op : ReadyOp} {ops rest : List ReadyOp} {line : String}
  {lines front t taken more : List String} {files files₁ : Snapshot} {count : Bool} {input : Bytes}

/-! ## Where a head gets full -/

/-- The first lines up to the one that fills a head. -/
structure FillsHead (ops : List ReadyOp) (lines t : List String) : Prop where
  first : t <+: lines
  full : HasFullHead ops t
  least : ∀ front, front <+: t → HasFullHead ops front → front = t

theorem FillsHead.room (h : FillsHead ops lines (front ++ [line])) : ¬ HasFullHead ops front := by
  intro hfull
  have hsame := h.least front (List.prefix_append front [line]) hfull
  simp at hsame

/-- The filter stops at the line that fills a head if that line comes through. -/
theorem FillsHead.readsNoFurther_iff (h : FillsHead ops lines (front ++ [line])) :
    ReadsNoFurther ops front line ↔ chained ops (front ++ [line]) ≠ chained ops front :=
  ⟨fun hstop => hstop.elim (fun harrives => (h.room harrives.hasFullHead).elim) And.right,
    fun hgrown => Or.inr ⟨h.full, hgrown⟩⟩

theorem HasFullHead.of_append {before : List ReadyOp} (h : HasFullHead ops (chained before lines)) :
    HasFullHead (before ++ ops) lines := by
  obtain ⟨before', op, after, rfl, hfull⟩ := h
  refine ⟨before ++ before', op, after, (List.append_assoc ..).symm, ?_⟩
  rwa [chained_append]

/-- A chain makes at most one line of one line, and one where no grep and no full head is. -/
theorem chained_concat (ops : List ReadyOp) (lines : List String) (line : String) :
    (∃ out, chained ops (lines ++ [line]) = chained ops lines ++ [out]) ∨
      chained ops (lines ++ [line]) = chained ops lines ∧
        ((∃ p invert, ReadyOp.grep p invert ∈ ops) ∨ HasFullHead ops lines) := by
  induction ops generalizing lines line with
  | nil => exact Or.inl ⟨line, rfl⟩
  | cons op rest ih =>
    simp only [chained_cons]
    rcases onLines_concat op lines line with ⟨line', hnew⟩ | ⟨hsame, hop⟩
    · rw [hnew]
      refine (ih (op.onLines lines) line').imp_right (And.imp_right (Or.imp ?_ ?_))
      · rintro ⟨p, invert, hmem⟩
        exact ⟨p, invert, List.mem_cons_of_mem op hmem⟩
      · exact fun hfull => hasFullHead_cons.mpr (Or.inr hfull)
    · refine Or.inr ⟨congrArg (chained rest) hsame, hop.imp ?_ fun hfull => ?_⟩
      · rintro ⟨p, invert, rfl⟩
        exact ⟨p, invert, List.mem_cons_self⟩
      · exact hasFullHead_cons.mpr (Or.inl hfull)

/-- **The line that fills a head comes through**, if every head lets some line through and has no grep
behind it. -/
theorem FillsHead.comes_through (h : FillsHead ops lines t)
    (hpos : ∀ limit, ReadyOp.head limit ∈ ops → 0 < limit)
    (hgrep : ∀ before limit after, ops = before ++ .head limit :: after →
      ∀ p invert, ReadyOp.grep p invert ∉ after) :
    ∃ front line, t = front ++ [line] ∧ chained ops t ≠ chained ops front := by
  obtain ⟨before, op, after, hops, hfull⟩ := h.full
  cases op with
  | head limit =>
    rcases List.eq_nil_or_concat t with rfl | ⟨front, line, rfl⟩
    · rw [chained_nil] at hfull
      have hlimit : 0 < limit := hpos limit (hops ▸ by simp)
      exact absurd hfull (Nat.not_le.mpr hlimit)
    · refine ⟨front, line, List.concat_eq_append .., ?_⟩
      rw [List.concat_eq_append] at h hfull ⊢
      have hroom := h.room
      rw [hops] at hroom ⊢
      rw [chained_append, chained_append]
      have hbehind : ¬ HasFullHead (.head limit :: after) (chained before front) :=
        mt HasFullHead.of_append hroom
      rcases chained_concat before front line with ⟨line', hnew⟩ | ⟨hsame, -⟩
      · rw [hnew]
        rcases chained_concat (.head limit :: after) (chained before front) line' with
          ⟨out, hout⟩ | ⟨-, ⟨p, invert, hmem⟩ | hfull⟩
        · rw [hout]
          exact List.append_right_eq_self.not.mpr (List.cons_ne_nil _ _)
        · rcases List.mem_cons.mp hmem with heq | hmem
          · cases heq
          · exact (hgrep before limit after hops p invert hmem).elim
        · exact (hbehind hfull).elim
      · rw [hsame] at hfull
        exact (hbehind (hasFullHead_cons.mpr (Or.inl hfull))).elim
  | _ => exact hfull.elim

/-! ## What a filter takes -/

theorem LinesRead.first (h : LinesRead ops lines more taken) : taken <+: more := by
  induction h with
  | ended lines => exact List.prefix_rfl
  | stopped more hstop => exact ⟨more, rfl⟩
  | on hgo hrest ih => exact (List.prefix_cons_inj _).mpr ih

/-- A filter stops at no line but the last that it takes. -/
theorem LinesRead.going (h : LinesRead ops lines more taken) (hfront : front ++ [line] <+: taken)
    (hless : front ++ [line] ≠ taken) : ¬ ReadsNoFurther ops (lines ++ front) line := by
  induction h generalizing front with
  | ended lines => exact absurd (List.prefix_nil.mp hfront) hless
  | @stopped lines first more hstop =>
    refine absurd (hfront.eq_of_length_le ?_) hless
    rw [List.length_append]
    exact Nat.le_add_left 1 front.length
  | @on lines more taken first hgo hrest ih =>
    cases front with
    | nil =>
      obtain ⟨rfl, -⟩ := List.cons_prefix_cons.mp hfront
      rwa [List.append_nil]
    | cons head front =>
      obtain ⟨rfl, hbehind⟩ := List.cons_prefix_cons.mp hfront
      have hgoing := ih hbehind fun heq => hless (congrArg (head :: ·) heq)
      rwa [List.append_assoc] at hgoing

/-- At the last one it stops, unless it is the last of all. -/
theorem LinesRead.last (h : LinesRead ops lines more taken) :
    taken = more ∨ ∃ front line, taken = front ++ [line] ∧
    ReadsNoFurther ops (lines ++ front) line := by
  induction h with
  | ended lines => exact Or.inl rfl
  | @stopped lines line more hstop => exact Or.inr ⟨[], line, rfl, by rwa [List.append_nil]⟩
  | @on lines more taken line hgo hrest ih =>
    rcases ih with rfl | ⟨front, last, rfl, hstop⟩
    · exact Or.inl rfl
    · refine Or.inr ⟨line :: front, last, rfl, ?_⟩
      rwa [List.append_assoc] at hstop

/-- What a filter takes of its lines. -/
structure TakesLines (ops : List ReadyOp) (lines taken : List String) : Prop where
  /-- It takes them in order. -/
  first : taken <+: lines
  /-- Where no head gets full it takes them all. -/
  all : ¬ HasFullHead ops lines → taken = lines
  /-- Where one does, it leaves off right there if the line that fills the head comes through, or no
  line is left; and only then. -/
  exact : ∀ t, FillsHead ops lines t →
    (taken = t ↔ t = lines ∨ ∃ front line, t = front ++ [line] ∧ chained ops t ≠ chained ops front)
  /-- Otherwise it takes more, up to the first line that gets to a full head, and to the end if there
  is none. Nothing comes of these lines. -/
  lost : ∀ t, FillsHead ops lines t → taken ≠ t → ∃ more, more ≠ [] ∧ taken = t ++ more ∧
    chained ops taken = chained ops t ∧
    (∀ front line, front ++ [line] <+: more → ReachesFullHead ops (t ++ front) line →
      front ++ [line] = more) ∧
    (taken = lines ∨ ∃ front line, more = front ++ [line] ∧ ReachesFullHead ops (t ++ front) line)
  /-- No line is lost where every head lets some line through and has no grep behind it. -/
  sound : (∀ limit, ReadyOp.head limit ∈ ops → 0 < limit) →
    (∀ before limit after, ops = before ++ .head limit :: after →
      ∀ p invert, ReadyOp.grep p invert ∉ after) →
    ∀ t, FillsHead ops lines t → taken = t

/-- A filter takes no less than the lines up to the one that fills a head. -/
theorem LinesRead.fillsHead (h : LinesRead ops [] lines taken) (ht : FillsHead ops lines t) :
    t <+: taken := by
  rcases List.prefix_or_prefix_of_prefix ht.first h.first with hle | hge
  · exact hle
  · rcases h.last with hall | ⟨front, line, heq, hstop⟩
    · rw [hall]
      exact ht.first
    · have hfull : HasFullHead ops taken := heq ▸ hstop.hasFullHead
      exact ht.least taken hge hfull ▸ List.prefix_rfl

theorem LinesRead.eq_iff (h : LinesRead ops [] lines taken) (ht : FillsHead ops lines t) :
    taken = t ↔
    t = lines ∨ ∃ front line, t = front ++ [line] ∧ chained ops t ≠ chained ops front := by
  have hle := h.fillsHead ht
  constructor
  · rintro rfl
    rcases h.last with hall | ⟨front, line, rfl, hstop⟩
    · exact Or.inl hall
    · exact Or.inr ⟨front, line, rfl, ht.readsNoFurther_iff.mp hstop⟩
  · rintro (rfl | ⟨front, line, rfl, hgrown⟩)
    · exact h.first.eq_of_length_le hle.length_le
    · by_contra hne
      exact h.going hle (Ne.symm hne) (ht.readsNoFurther_iff.mpr hgrown)

/-- **What a filter takes line by line is what it should take, but for the lines that it loses.** -/
theorem LinesRead.takesLines (h : LinesRead ops [] lines taken) : TakesLines ops lines taken where
  first := h.first
  all := by
    intro hroom
    rcases h.all_or_hasFullHead with hall | hfull
    · exact hall
    · obtain ⟨more, rfl⟩ := h.first
      exact (hroom (hfull.append more)).elim
  exact := fun _ ht => h.eq_iff ht
  lost := by
    intro t ht hne
    obtain ⟨more, rfl⟩ := h.fillsHead ht
    have hsealed := ht.full.exhausted
    refine ⟨more, ?_, rfl, hsealed.same more, ?_, ?_⟩
    · rintro rfl
      exact hne (List.append_nil t)
    · intro front line hfront harrives
      by_contra hless
      have htaken : t ++ front ++ [line] <+: t ++ more := by
        rwa [List.append_assoc, List.prefix_append_right_inj]
      refine h.going htaken (fun heq => hless ?_) (Or.inl harrives)
      rwa [List.append_assoc, List.append_right_inj] at heq
    · refine h.last.imp_right ?_
      rintro ⟨before, line, heq, hstop⟩
      rcases List.eq_nil_or_concat more with rfl | ⟨front, last, rfl⟩
      · exact absurd (List.append_nil t) hne
      · rw [List.concat_eq_append, ← List.append_assoc] at heq
        obtain ⟨rfl, hline⟩ := List.append_inj' heq rfl
        obtain rfl : last = line := List.singleton_inj.mp hline
        refine ⟨front, last, List.concat_eq_append .., hstop.resolve_right fun hgrown => ?_⟩
        refine hgrown.2 ?_
        show chained ops (t ++ front ++ [last]) = chained ops (t ++ front)
        rw [List.append_assoc, hsealed.same, hsealed.same]
  sound := by
    intro hpos hgrep t ht
    exact (h.eq_iff ht).mpr (Or.inr (ht.comes_through hpos hgrep))

/-! ## Whole scripts -/

/-- How the steps of a script share the lines of their input, and what comes of that. Only filters
take lines, and each takes its own of those that the filters before it have left. -/
inductive SharesInput (inv : Invocation) : List Step → Snapshot → List String → Yield → Prop where
  | done (files : Snapshot) (lines : List String) :
      SharesInput inv [] files lines ⟨[], .done, files⟩
  | emit {text : String} {rest : List Step} {files : Snapshot} {lines : List String} {y : Yield}
      (hrest : SharesInput inv rest files lines y) :
      SharesInput inv (.emit text :: rest) files lines (y.after [textLine (expand inv text)])
  | read {path content : String} {rest : List Step} {files : Snapshot} {lines : List String}
      {y : Yield} (hread : Snapshot.read? files (expand inv path) = some content)
      (hrest : SharesInput inv rest files lines y) :
      SharesInput inv (.read path :: rest) files lines (y.putOut (Utf8.encode content))
  | missing {path : String} {files : Snapshot} (rest : List Step) (lines : List String)
      (hread : Snapshot.read? files (expand inv path) = none) :
      SharesInput inv (.read path :: rest) files lines
        ⟨[], .failed (.of (expand inv path ++ ": No such file or directory")), files⟩
  | write {path text : String} {rest : List Step} {files files₁ : Snapshot} {lines : List String}
      {y : Yield}
      (hwrite : Snapshot.write files (expand inv path) (expand inv text ++ "\n") = .ok files₁)
      (hrest : SharesInput inv rest files₁ lines y) :
      SharesInput inv (.write path text :: rest) files lines y
  | unwritten {path text : String} {files : Snapshot} {why : Fault} (rest : List Step)
      (lines : List String)
      (hwrite : Snapshot.write files (expand inv path) (expand inv text ++ "\n") = .error why) :
      SharesInput inv (.write path text :: rest) files lines ⟨[], .failed why, files⟩
  | fail (message : String) (rest : List Step) (files : Snapshot) (lines : List String) :
      SharesInput inv (.fail message :: rest) files lines
        ⟨[], .failed (.of (expand inv message)), files⟩
  | filter {chain : List Op} {count : Bool} {rest : List Step} {f : Filter}
      {files files₁ files₂ : Snapshot} {taken left : List String} {y : Yield}
      (hstart : Filter.start inv chain count files = .ok (f, files₁))
      (htakes : TakesLines f.chain (taken ++ left) taken)
      (hteed : TeeSpec f.chain [] taken files₁ files₂)
      (hrest : SharesInput inv rest files₂ left y) :
      SharesInput inv (.filter chain count :: rest) files (taken ++ left)
        (y.after (reported count (chained f.chain taken).length (chained f.chain taken)))
  | unstarted {chain : List Op} {count : Bool} {files : Snapshot} {why : Fault} (rest : List Step)
      (lines : List String) (hstart : Filter.start inv chain count files = .error why) :
      SharesInput inv (.filter chain count :: rest) files lines ⟨[], .failed why, files⟩

/-- **From any of its steps on, a script shares what is left of the input among those steps.** -/
theorem sharesInput_of_denotes (inv : Invocation) (steps : List Step) (files : Snapshot)
    (input : Bytes) : ∃ y, (State.before steps files).Denotes inv input y ∧
      SharesInput inv steps files (LineBuffer.lines input) y := by
  induction steps generalizing files input with
  | nil => exact ⟨_, Program.Denotes.finish rfl, .done _ _⟩
  | cons step rest ih =>
    cases step with
    | emit text =>
      obtain ⟨y, hdenotes, hshares⟩ := ih files input
      exact ⟨_, (stepsPass_emit text files input rest _).mpr ⟨y, hdenotes, rfl⟩, .emit hshares⟩
    | read path =>
      cases hread : Snapshot.read? files (expand inv path) with
      | none =>
        exact ⟨_, ((stepsFail_read hread input).only rest _).mpr rfl, .missing rest _ hread⟩
      | some content =>
        obtain ⟨y, hdenotes, hshares⟩ := ih files input
        refine ⟨_, (stepsPass_read hread input rest _).mpr ⟨y, hdenotes, ?_⟩, .read hread hshares⟩
        exact Yield.putOut_eq_after ..
    | write path text =>
      cases hwrite : Snapshot.write files (expand inv path) (expand inv text ++ "\n") with
      | error why =>
        exact ⟨_, ((stepsFail_write hwrite input).only rest _).mpr rfl, .unwritten rest _ hwrite⟩
      | ok files₁ =>
        obtain ⟨y, hdenotes, hshares⟩ := ih files₁ input
        exact ⟨_, (stepsPass_write hwrite input rest _).mpr ⟨y, hdenotes, rfl⟩,
          .write hwrite hshares⟩
    | fail message =>
      exact ⟨_, ((stepsFail_fail message files input).only rest _).mpr rfl, .fail _ _ _ _⟩
    | filter chain count =>
      cases hstart : Filter.start inv chain count files with
      | error why =>
        exact ⟨_, ((stepsFail_filter hstart input).only rest _).mpr rfl, .unstarted rest _ hstart⟩
      | ok started =>
        obtain ⟨files₂, left, taken, hleft, htaking, hteed, hpasses⟩ :=
          stepsPass_filter hstart input
        obtain ⟨y, hdenotes, hshares⟩ := ih files₂ left
        refine ⟨_, (hpasses rest _).mpr ⟨y, hdenotes, rfl⟩, ?_⟩
        rw [hleft] at htaking ⊢
        exact .filter hstart htaking.takesLines hteed hshares

/-- **The filters of a script share its input.** Every script comes to an end on every input, and
each of its filters takes the lines up to the one that fills a head of its chain, if that line comes
through; the next filter starts with the line behind it. -/
theorem shares_input (script : Script) (inv : Invocation) (input : Bytes) :
    ∃ y, (Task.start script inv).Yields input y ∧
      SharesInput inv script.steps inv.files (LineBuffer.lines input) y := by
  obtain ⟨y, hdenotes, hshares⟩ := sharesInput_of_denotes inv script.steps inv.files input
  exact ⟨y, Task.ReadsPlainly.yields (.start (.inl (readsOnly_lines script inv)) input) hdenotes,
    hshares⟩

/-- A script of two filters, the first of which looks for a match in its first line. -/
def firstMatch : Script :=
  ⟨"t", [.filter [.head 1, .grep "b" false false] false, .emit "--", .filter [] false]⟩

/-- **A line is lost behind a head that is full.** The first line fills the head and is no match, so
the filter reads the second one too; the next filter starts with the third. -/
theorem head_loses_line :
    parse "t" "head 1\ngrep b\nemit --\ncat" = .ok firstMatch ∧
    LineBuffer.lines (Utf8.encode "a\nb\nc\n") = ["a", "b", "c"] ∧
    (∀ p, FillsHead [.head 1, .grep p false] ["a", "b", "c"] ["a"]) ∧
    (Task.start firstMatch ⟨["t"], [], .null⟩).Yields (Utf8.encode "a\nb\nc\n")
      ⟨[textLine "--", textLine "c"], .done, .null⟩ := by
  refine ⟨by decide, by decide +kernel, fun p => ⟨by decide, ?_, ?_⟩, 20, Task.yield?_more rfl⟩
  · exact ⟨[], .head 1, [.grep p false], rfl, Nat.le_refl 1⟩
  · rintro front hfront hfull
    cases front with
    | nil =>
      rcases hasFullHead_cons.mp hfull with hhead | hrest
      · cases hhead
      · exact ((hasFullHead_cons.mp hrest).elim id not_hasFullHead_nil).elim
    | cons line front =>
      obtain ⟨rfl, hnil⟩ := List.cons_prefix_cons.mp hfront
      rw [List.prefix_nil.mp hnil]

end Script

end Pipework
