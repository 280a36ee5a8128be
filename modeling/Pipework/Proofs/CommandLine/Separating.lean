import Pipework.Proofs.CommandLine.Grammar

/-!
# Lines that are put together

The reader of tokens carries a word that may still go on, so text does not in general come to the same
tokens when more stands behind it. At a semicolon and at a pipe it does: nothing that was read
before has a part in what is read behind (`Token.ofLine_separated`), unless a comment hides the
separator. So a line of two parts with a semicolon between them has the nodes of both parts, and a
pipe between two commands makes one of their chains (`parse_separated`).

* `Token.comment?` — the comment of a text by the rule for number signs alone;
* `Token.PrefixRead` — how text is read that may go on: to a comment, or to a place from where what
  comes behind is read (`Token.read_prefixRead`);
* `Token.hasComment_iff` — a line has a comment exactly when the reader comes to a number sign where
  no word is begun and nothing is quoted.
-/

namespace Pipework

namespace Token

variable {done older : List Token} {draft : Option Draft} {mode : Mode} {c : Char} {op : Token}
  {cs gap rest : List Char} {tokens : List Token} {inWord : Bool}

/-! ## What was read before -/

theorem close_append (done older : List Token) (draft : Option Draft) :
    close (done ++ older) draft = close done draft ++ older := by
  cases draft <;> rfl

/-- Tokens that are read already stay in front of those that are read. -/
theorem read_older (older done : List Token) (draft : Option Draft) (mode : Mode) (cs : List Char) :
    read (done ++ older) draft mode cs = (read done draft mode cs).map (older.reverse ++ ·) := by
  fun_induction read done draft mode cs <;> simp_all [read, close_append, Except.map]

/-! ## Comments -/

/-- What stands behind the first number sign that is neither quoted nor escaped and does not stand
inside a word. -/
def comment? (inWord : Bool) : Mode → List Char → Option (List Char)
  | _, [] => none
  | .escaped, _ :: rest => comment? true .bare rest
  | .single, c :: rest =>
    if c = '\'' then comment? inWord .bare rest else comment? true .single rest
  | .double, c :: rest =>
    if c = '"' then comment? inWord .bare rest
    else if c = '\\' then comment? inWord .doubleEscaped rest
    else comment? true .double rest
  | .doubleEscaped, _ :: rest => comment? true .double rest
  | .bare, c :: rest =>
    if c = '#' ∧ inWord = false then some rest
    else if c = '\'' then comment? true .single rest
    else if c = '"' then comment? true .double rest
    else if c = '\\' then comment? true .escaped rest
    else comment? (!endsWord c) .bare rest

theorem comment?_ending (hc : endsWord c = true) :
    comment? inWord .bare (c :: rest) = comment? false .bare rest := by
  have hplain : c ≠ '#' ∧ c ≠ '\'' ∧ c ≠ '"' ∧ c ≠ '\\' := by
    refine ⟨?_, ?_, ?_, ?_⟩ <;>
      (rintro rfl
       cases hc)
  simp [comment?, hplain, hc]

theorem comment?_within (hplain : c ∉ ['\'', '"', '\\']) (hhash : c = '#' → inWord = true)
    (hc : endsWord c = false) : comment? inWord .bare (c :: rest) = comment? true .bare rest := by
  simp only [List.mem_cons, List.not_mem_nil, or_false, not_or] at hplain
  have hsign : ¬ (c = '#' ∧ inWord = false) := by
    rintro ⟨hsign, hnone⟩
    exact absurd (hhash hsign) (Bool.eq_false_iff.mp hnone)
  rw [comment?, if_neg hsign, if_neg hplain.1, if_neg hplain.2.1, if_neg hplain.2.2, hc]
  rfl

/-! ## What comes behind -/

/-- The operator of one character that a second of the same makes into another one. -/
def doubled? : Char → Option Token
  | '|' => some .pipe
  | '&' => some (.foreign .background)
  | '>' => some (.redirect ">")
  | _ => none

theorem read_operator (hop : doubled? c = some op) (hrest : ∀ behind, rest ≠ c :: behind) :
    read done draft .bare (c :: rest) = read (op :: close done draft) none .bare rest := by
  unfold doubled? at hop
  split at hop <;> cases hop <;> simp [read, isSeparator, hrest]

theorem read_blank (hc : isSeparator c = true) :
    read done draft .bare (c :: rest) = read (close done draft) none .bare rest := by
  have hplain : c ≠ '|' ∧ c ≠ '&' ∧ c ≠ '>' := by
    refine ⟨?_, ?_, ?_⟩ <;>
      (rintro rfl
       cases hc)
  simp [read, hc, hplain]

/-- What comes behind some tokens does not run into the last of them. -/
def WordEnded (tokens : List Token) (rest : List Char) : Prop :=
  ∀ c ∈ rest.head?, ∀ op ∈ doubled? c, tokens.getLast? ≠ some op

/-- How text is read that may go on: the reader comes to a comment in it, which hides what stands
behind; or it has no comment and what comes behind is read from where it leaves the reader; or it
breaks off. -/
inductive PrefixRead (done : List Token) (draft : Option Draft) (mode : Mode)
    (cs : List Char) : Prop
  | comment (before behind : List Char) (done' : List Token) :
      comment? draft.isSome mode cs = some behind → cs = before ++ '#' :: behind →
      (∀ rest, read done draft mode (before ++ '#' :: rest) = read done' none .bare ('#' :: rest)) →
        PrefixRead done draft mode cs
  | goesOn (done' : List Token) (draft' : Option Draft) :
      comment? draft.isSome mode cs = none →
      read done draft mode cs = .ok (close done' draft').reverse →
      (∀ rest, WordEnded (close done' draft').reverse rest →
        read done draft mode (cs ++ rest) = read done' draft' .bare rest) →
          PrefixRead done draft mode cs
  | fault (fault : LineFault) : comment? draft.isSome mode cs = none →
      read done draft mode cs = .error fault → PrefixRead done draft mode cs

/-- Characters that the reader takes whatever comes behind them. -/
theorem PrefixRead.step {done' : List Token} {draft' : Option Draft} {mode' : Mode}
    (h : PrefixRead done' draft' mode' cs) (taken : List Char)
    (hcomment : ∀ more, comment? draft.isSome mode (taken ++ more) =
      comment? draft'.isSome mode' more)
    (hread : ∀ more, read done draft mode (taken ++ more) = read done' draft' mode' more) :
    PrefixRead done draft mode (taken ++ cs) := by
  cases h with
  | comment before behind done' hsign hcs hbefore =>
    refine .comment (taken ++ before) behind done' ((hcomment cs).trans hsign)
      (by rw [hcs, List.append_assoc]) fun rest => ?_
    rw [List.append_assoc, hread, hbefore]
  | goesOn done' draft' hnone hok hgoes =>
    refine .goesOn done' draft' ((hcomment cs).trans hnone) ((hread cs).trans hok)
      fun rest hrest => ?_
    rw [List.append_assoc, hread, hgoes rest hrest]
  | fault fault hnone hfault =>
    exact .fault fault ((hcomment cs).trans hnone) ((hread cs).trans hfault)

/-- An operator that is not doubled. It may be the last character; then what comes behind must not
double it. -/
theorem PrefixRead.operator (hop : doubled? c = some op) (hcs : ∀ behind, cs ≠ c :: behind)
    (h : PrefixRead (op :: close done draft) none .bare cs) :
    PrefixRead done draft .bare (c :: cs) := by
  have hhash : c ≠ '#' := by
    rintro rfl
    cases hop
  have hcomment : comment? draft.isSome .bare (c :: cs) = comment? false .bare cs := by
    refine comment?_ending ?_
    unfold doubled? at hop
    split at hop <;> cases hop <;> rfl
  have hread : read done draft .bare (c :: cs) = read (op :: close done draft) none .bare cs :=
    read_operator hop hcs
  cases h with
  | comment before behind done' hsign hbehind hbefore =>
    refine .comment (c :: before) behind done' (hcomment.trans hsign) (congrArg (c :: ·) hbehind)
      fun rest => ?_
    have hrest : ∀ behind', before ++ '#' :: rest ≠ c :: behind' := by
      rintro behind' heq
      cases before with
      | nil => exact hhash (List.cons.inj heq).1.symm
      | cons first before =>
        rw [(List.cons.inj heq).1] at hbehind
        exact hcs _ hbehind
    rw [List.cons_append, read_operator hop hrest, hbefore]
  | goesOn done' draft' hnone hok hgoes =>
    refine .goesOn done' draft' (hcomment.trans hnone) (hread.trans hok) fun rest hrest => ?_
    have hmore : ∀ behind, cs ++ rest ≠ c :: behind := by
      rintro behind heq
      cases cs with
      | nil =>
        have hlast : (close done' draft').reverse.getLast? = some op := by
          rw [← Except.ok.inj hok]
          simp [close]
        exact hrest c (congrArg List.head? heq) op hop hlast
      | cons first cs => exact hcs cs (congrArg (· :: cs) (List.cons.inj heq).1)
    rw [List.cons_append, read_operator hop hmore, hgoes rest hrest]
  | fault fault hnone hfault => exact .fault fault (hcomment.trans hnone) (hread.trans hfault)

/-- **Text has a comment in it, goes on or breaks off.** -/
theorem read_prefixRead (done : List Token) (draft : Option Draft) (mode : Mode) (cs : List Char) :
    PrefixRead done draft mode cs := by
  fun_induction read done draft mode cs with
  | case1 => exact .goesOn _ _ rfl rfl fun _ _ => rfl
  | case2 | case3 | case4 | case5 => exact .fault _ rfl rfl
  | case6 done draft c rest ih => exact ih.step [c] (fun _ => rfl) fun _ => rfl
  | case7 done draft rest ih => exact ih.step ['\''] (fun _ => rfl) fun _ => rfl
  | case8 done draft c rest hc ih => exact ih.step [c] (fun _ => if_neg hc) fun _ => if_neg hc
  | case9 done draft rest ih => exact ih.step ['"'] (fun _ => rfl) fun _ => rfl
  | case10 done draft rest hc ih => exact ih.step ['\\'] (fun _ => rfl) fun _ => rfl
  | case11 done draft c rest hquote hescape ih =>
    exact ih.step [c] (fun _ => (if_neg hquote).trans (if_neg hescape))
      fun _ => (if_neg hquote).trans (if_neg hescape)
  | case12 done draft c rest hc ih => exact ih.step [c] (fun _ => rfl) fun _ => if_pos hc
  | case13 done draft c rest hc ih => exact ih.step [c] (fun _ => rfl) fun _ => if_neg hc
  | case14 done draft rest ih => exact ih.step ['|', '|'] (fun _ => rfl) fun _ => rfl
  | case15 done draft rest ih => exact ih.step ['&', '&'] (fun _ => rfl) fun _ => rfl
  | case16 done draft rest ih => exact ih.step ['>', '>'] (fun _ => rfl) fun _ => rfl
  | case17 done draft c rest _ _ _ hspace ih =>
    exact ih.step [c] (fun _ => comment?_ending (by simp [endsWord, hspace])) fun _ =>
      read_blank hspace
  | case18 done draft c rest _ _ _ _ hcomment =>
    obtain ⟨rfl, rfl⟩ := hcomment
    exact .comment [] rest done rfl rfl fun _ => rfl
  | case19 _ _ _ _ _ _ _ _ ih =>
    exact ih.step ['\''] (fun _ => rfl) fun _ => by simp [read, isSeparator]
  | case20 _ _ _ _ _ _ _ _ _ ih =>
    exact ih.step ['"'] (fun _ => rfl) fun _ => by simp [read, isSeparator]
  | case21 _ _ _ _ _ _ _ _ _ _ ih =>
    exact ih.step ['\\'] (fun _ => rfl) fun _ => by simp [read, isSeparator]
  | case22 _ _ _ hpipe _ _ _ _ _ _ _ ih => exact ih.operator rfl fun r => hpipe r rfl
  | case23 _ _ _ _ hamp _ _ _ _ _ _ _ ih => exact ih.operator rfl fun r => hamp r rfl
  | case24 _ _ _ _ _ _ _ _ _ _ _ _ _ ih =>
    exact ih.step [';'] (fun _ => rfl) fun _ => by simp [read, isSeparator]
  | case25 _ _ _ _ _ _ _ _ _ _ _ _ _ _ _ hparen ih =>
    obtain rfl | rfl := hparen
    · exact ih.step ['('] (fun _ => rfl) fun _ => by simp [read, isSeparator]
    · exact ih.step [')'] (fun _ => rfl) fun _ => by simp [read, isSeparator]
  | case26 _ _ _ _ _ hgt _ _ _ _ _ _ _ _ _ ih => exact ih.operator rfl fun r => hgt r rfl
  | case27 _ _ _ _ _ _ _ _ _ _ _ _ _ _ _ _ ih =>
    exact ih.step ['<'] (fun _ => rfl) fun _ => by simp [read, isSeparator]
  | case28 done draft c rest _ _ _ hspace hhash hsingle hdouble hescape hpipe hamp hsemi hparen hgt
      hlt ih =>
    have hword : c = '#' → draft.isSome = true := fun hc =>
      Option.isSome_iff_ne_none.mpr fun hnone => hhash ⟨hc, hnone⟩
    have hplain : c ∉ ['\'', '"', '\\'] := by
      simp [hsingle, hdouble, hescape]
    have hwithin : endsWord c = false := by
      simp_all [endsWord]
    exact ih.step [c] (fun _ => comment?_within hplain hword hwithin) fun _ => by
      simp [read, hspace, hhash, hsingle, hdouble, hescape, hpipe, hamp, hsemi, hparen, hgt, hlt]

/-! ## Separators -/

/-- A comment begins in a line: what comes behind some number sign of it makes no difference. -/
def HasComment (line : List Char) : Prop :=
  ∃ before behind tokens, line = before ++ '#' :: behind ∧
    ∀ rest, ofLine (before ++ '#' :: rest) = .ok tokens

/-- **A line has a comment exactly when the reader comes to a number sign where no word is begun and
nothing is quoted**, and such a line is read. -/
theorem hasComment_iff (line : List Char) :
    HasComment line ↔ ∃ before behind done, comment? false .bare line = some behind ∧
      line = before ++ '#' :: behind ∧
      ∀ rest, ofLine (before ++ '#' :: rest) = read done none .bare ('#' :: rest) := by
  constructor
  · rintro ⟨before, behind, tokens, hline, hread⟩
    cases read_prefixRead [] none .bare line with
    | comment before behind done hsign hline hbefore =>
      exact ⟨before, behind, done, hsign, hline, hbefore⟩
    | goesOn done draft hnone hok hgoes =>
      -- a semicolon behind the line would be one more token
      have hlonger := hgoes [';'] (by rintro _ ⟨⟩ _ ⟨⟩)
      rw [hline, List.append_assoc, List.cons_append] at hlonger
      have hshorter := hok
      rw [hline] at hshorter
      have hsame : (close done draft).reverse = tokens :=
        Except.ok.inj (hshorter.symm.trans (hread behind))
      have hmore : (Token.semicolon :: close done draft).reverse = tokens :=
        Except.ok.inj (hlonger.symm.trans (hread (behind ++ [';'])))
      have := congrArg List.length (hmore.trans hsame.symm)
      simp at this
    | fault fault _ hfault =>
      rw [hline] at hfault
      cases hfault.symm.trans (hread behind)
  · rintro ⟨before, behind, done, -, hline, hread⟩
    exact ⟨before, behind, done.reverse, hline, fun rest => (hread rest).trans rfl⟩

theorem read_gap (hgap : ∀ c ∈ gap, isSeparator c = true) (done : List Token) (rest : List Char) :
    read done none .bare (gap ++ rest) = read done none .bare rest := by
  induction gap with
  | nil => rfl
  | cons c gap ih =>
    obtain ⟨hc, hgap⟩ := List.forall_mem_cons.mp hgap
    rw [List.cons_append, read_blank hc]
    exact ih hgap

/-- An operator behind blanks ends the word that is begun. -/
theorem read_gap_operator (hgap : ∀ c ∈ gap, isSeparator c = true)
    (hop : ∀ done draft, read done draft .bare (c :: rest) =
      read (op :: close done draft) none .bare rest) :
    read done draft .bare (gap ++ c :: rest) = read (op :: close done draft) none .bare rest := by
  cases gap with
  | nil => exact hop done draft
  | cons blank gap =>
    obtain ⟨hblank, hgap⟩ := List.forall_mem_cons.mp hgap
    rw [List.cons_append, read_blank hblank, read_gap hgap, hop]
    rfl

/-- What stands behind a blank, or behind an operator that runs into nothing, stands apart. -/
theorem wordEnded_gap (hgap : ∀ c ∈ gap, isSeparator c = true)
    (hc : ∀ op ∈ doubled? c, tokens.getLast? ≠ some op) : WordEnded tokens (gap ++ c :: rest) := by
  cases gap with
  | nil => exact fun _ hhead => Option.some.inj hhead ▸ hc
  | cons blank gap =>
    rintro _ ⟨⟩ op hop
    have hblank := hgap blank List.mem_cons_self
    unfold doubled? at hop
    split at hop <;> cases hop <;> cases hblank

/-- **A line without a comment, an operator and another line come to the tokens of the one, the operator
and the tokens of the other.** -/
theorem ofLine_separated {line gap' line' : List Char} (hline : ofLine line = .ok tokens)
    (hopen : ¬ HasComment line) (hgap : ∀ c ∈ gap, isSeparator c = true)
    (hgap' : ∀ c ∈ gap', isSeparator c = true)
    (hop : ∀ done draft, read done draft .bare (c :: (gap' ++ line')) =
      read (op :: close done draft) none .bare (gap' ++ line'))
    (hc : ∀ op ∈ doubled? c, tokens.getLast? ≠ some op) :
    ofLine (line ++ (gap ++ c :: (gap' ++ line'))) = (ofLine line').map (tokens ++ op :: ·) := by
  cases read_prefixRead [] none .bare line with
  | comment before behind done hsign hbehind hbefore =>
    exact absurd ((hasComment_iff line).mpr ⟨before, behind, done, hsign, hbehind, hbefore⟩) hopen
  | fault fault _ hfault => cases hline.symm.trans hfault
  | goesOn done draft _ hok hgoes =>
    obtain rfl : tokens = (close done draft).reverse := Except.ok.inj (hline.symm.trans hok)
    have hdone : (op :: close done draft).reverse = (close done draft).reverse ++ [op] :=
      List.reverse_cons
    calc ofLine (line ++ (gap ++ c :: (gap' ++ line')))
        = read done draft .bare (gap ++ c :: (gap' ++ line')) := hgoes _ (wordEnded_gap hgap hc)
      _ = read (op :: close done draft) none .bare line' := by
        rw [read_gap_operator hgap hop, read_gap hgap']
      _ = (ofLine line').map ((op :: close done draft).reverse ++ ·) := read_older _ [] none .bare line'
      _ = (ofLine line').map ((close done draft).reverse ++ op :: ·) := by
        simp only [hdone, List.append_assoc, List.singleton_append]

/-- A line that starts with a bar starts with a pipe, or has a construct in it that is not run. -/
theorem head_of_bar (h : ofLine ('|' :: rest) = .ok tokens) :
    tokens.head? = some .pipe ∨ ∃ construct, .foreign construct ∈ tokens := by
  have hfront : ∀ first cs, read [first] none .bare cs = .ok tokens → tokens.head? = some first := by
    intro first cs hread
    have holder := read_older [first] [] none .bare cs
    rw [List.nil_append, hread] at holder
    cases hread' : read [] none .bare cs with
    | error fault =>
      rw [hread'] at holder
      cases holder
    | ok behind =>
      rw [hread'] at holder
      rw [Except.ok.inj holder]
      rfl
  by_cases hrest : ∃ behind, rest = '|' :: behind
  · obtain ⟨behind, rfl⟩ := hrest
    exact .inr ⟨_, List.mem_of_mem_head? (hfront (.foreign .conditionalList) behind h)⟩
  · rw [ofLine, read_operator rfl (not_exists.mp hrest)] at h
    exact .inl (hfront .pipe rest h)

end Token

namespace CommandLine

variable {tokens tokens' : List Token} {c c' : Command} {line line' gap gap' : String}

/-! ## Lines -/

theorem statements_append (tokens tokens' : List Token) :
    statements (tokens ++ .semicolon :: tokens') = statements tokens ++ statements tokens' := by
  rw [statements, List.splitOn_append_cons_self, List.filter_append]
  rfl

theorem statements_single (h : Token.semicolon ∉ tokens) (hsome : tokens ≠ []) :
    statements tokens = [tokens] := by
  rw [statements, List.splitOn_eq_singleton h]
  simp [hsome]

/-- A line without a semicolon that gives one node is the statement of that node. -/
theorem lineDenotes_of_parse {node : Statement} (htokens : Token.ofLine line.toList = .ok tokens)
    (hsemicolon : Token.semicolon ∉ tokens) (hparse : parse line = .ok [node]) :
    tokens ≠ [] ∧ LineDenotes tokens node := by
  obtain ⟨_, htokens', hmeans⟩ := parse_eq_ok.mp hparse
  cases htokens.symm.trans htokens'
  by_cases hsome : tokens = []
  · rw [hsome] at hmeans
    cases hmeans
  · rw [statements_single hsemicolon hsome] at hmeans
    cases hmeans with
    | cons hfirst _ => exact ⟨hsome, hfirst⟩

theorem mem_of_mem_segment {segment : List Token} {token : Token}
    (hsegment : segment ∈ tokens.splitOn .pipe) (htoken : token ∈ segment) : token ∈ tokens := by
  induction tokens generalizing segment with
  | nil =>
    rw [List.splitOn_nil, List.mem_singleton] at hsegment
    rwa [hsegment] at htoken
  | cons first rest ih =>
    rw [List.splitOn_cons_eq_if_modifyHead] at hsegment
    split at hsegment
    · obtain rfl | hsegment := List.mem_cons.mp hsegment
      · cases htoken
      · exact List.mem_cons_of_mem first (ih hsegment htoken)
    · obtain ⟨head, segments, hsplit⟩ :=
        List.exists_cons_of_ne_nil (List.splitOn_ne_nil Token.pipe rest)
      rw [hsplit, List.modifyHead_cons] at hsegment
      rw [hsplit] at ih
      obtain rfl | hsegment := List.mem_cons.mp hsegment
      · obtain rfl | htoken := List.mem_cons.mp htoken
        · exact List.mem_cons_self
        · exact List.mem_cons_of_mem first (ih List.mem_cons_self htoken)
      · exact List.mem_cons_of_mem first (ih (List.mem_cons_of_mem head hsegment) htoken)

theorem LineDenotes.no_foreign (h : LineDenotes tokens (.command c)) (construct : Construct) :
    .foreign construct ∉ tokens := by
  cases h with
  | pipeline hnone _ => exact hnone construct

/-- No segment of a command is empty. -/
theorem LineDenotes.segments_ne_nil (h : LineDenotes tokens (.command c)) :
    [] ∉ tokens.splitOn .pipe := by
  cases h with
  | pipeline _ hsays =>
    intro hmem
    obtain ⟨d, hd⟩ := exists_forall₂_iff.mp ⟨_, hsays⟩ [] hmem
    obtain ⟨w, hw, -⟩ := hd.wellFormed.command
    cases hw

theorem LineDenotes.last_ne_pipe (h : LineDenotes tokens (.command c)) :
    tokens.getLast? ≠ some .pipe := by
  intro hlast
  obtain ⟨init, rfl⟩ := List.getLast?_eq_some_iff.mp hlast
  refine h.segments_ne_nil ?_
  rw [List.splitOn_append_cons_self]
  exact List.mem_append_right _ (List.mem_singleton.mpr rfl)

theorem LineDenotes.head_ne_pipe (h : LineDenotes tokens (.command c)) :
    tokens.head? ≠ some .pipe := by
  intro hhead
  obtain ⟨rest, rfl⟩ := List.head?_eq_some_iff.mp hhead
  refine h.segments_ne_nil ?_
  rw [← List.nil_append (Token.pipe :: rest), List.splitOn_append_cons_self]
  exact List.mem_append_left _ (List.mem_singleton.mpr rfl)

theorem lastRedirects_of_segments {segments : List (List Token)} {commands : List Command}
    (h : List.Forall₂ SegmentDenotes segments commands)
    (hclear : ∀ segment ∈ segments, hasFile segment = false) :
    ∀ d ∈ commands, d.lastRedirects = .nil := by
  induction h with
  | nil => exact fun _ hmem => nomatch hmem
  | cons hfirst _ ih =>
    obtain ⟨hsegment, hclear⟩ := List.forall_mem_cons.mp hclear
    exact List.forall_mem_cons.mpr
      ⟨(readSegment_single (readSegment_eq_ok.mpr hfirst)).2.mpr hsegment, ih hclear⟩

/-- Without file redirects nothing stands behind the chain of a command. -/
theorem LineDenotes.lastRedirects_eq_nil (h : LineDenotes tokens (.command c))
    (hfiles : ∀ op, .redirect op ∉ tokens) : c.lastRedirects = .nil := by
  cases h with
  | pipeline _ hsays =>
    have hclear : ∀ segment ∈ tokens.splitOn .pipe, hasFile segment = false := by
      intro segment hsegment
      rw [hasFile, List.any_eq_false]
      intro token htoken
      cases token with
      | redirect op => exact absurd (mem_of_mem_segment hsegment htoken) (hfiles op)
      | _ => exact Bool.false_ne_true
    obtain ⟨hfirst, hothers⟩ := List.forall_mem_cons.mp (lastRedirects_of_segments hsays hclear)
    exact Command.lastRedirects_foldl_pipeInto hfirst hothers

/-- **Two commands with a pipe between them are one**, the chain of the second behind that of the
first. -/
theorem LineDenotes.pipe (h : LineDenotes tokens (.command c))
    (h' : LineDenotes tokens' (.command c'))
    (hending : c.lastRedirects = .nil) :
    LineDenotes (tokens ++ .pipe :: tokens') (.command (c.pipeInto c')) := by
  cases h with
  | @pipeline first others hnone hsays =>
    cases h' with
    | @pipeline first' others' hnone' hsays' =>
      rw [← Command.foldl_pipeInto hending, ← List.foldl_cons, ← List.foldl_append]
      refine .pipeline (fun other hmem => ?_) ?_
      · obtain hmem | hmem := List.mem_append.mp hmem
        · exact hnone other hmem
        · exact hnone' other ((List.mem_cons.mp hmem).resolve_left nofun)
      · rw [List.splitOn_append_cons_self]
        exact List.rel_append hsays hsays'

theorem toList_separated (line gap : String) (separator : Char) (gap' line' : String) :
    (line ++ gap ++ String.singleton separator ++ gap' ++ line').toList =
      line.toList ++ (gap.toList ++ separator :: (gap'.toList ++ line'.toList)) := by
  simp

section

variable (htokens : Token.ofLine line.toList = .ok tokens)
  (hopen : ¬ Token.HasComment line.toList) (hgap : ∀ c ∈ gap.toList, Token.isSeparator c = true)
  (hgap' : ∀ c ∈ gap'.toList, Token.isSeparator c = true)

include htokens hopen hgap hgap'

/-- **A semicolon puts the nodes of two lines one behind the other**, and both are read or none. -/
theorem parse_semicolon (line' : String) (nodes : List Statement) :
    parse (line ++ gap ++ ";" ++ gap' ++ line') = .ok nodes ↔
      ∃ front behind, parse line = .ok front ∧ parse line' = .ok behind ∧
        nodes = front ++ behind := by
  have hcut : Token.ofLine (line ++ gap ++ ";" ++ gap' ++ line').toList =
      (Token.ofLine line'.toList).map (tokens ++ .semicolon :: ·) := by
    refine (congrArg Token.ofLine (toList_separated line gap ';' gap' line')).trans
      (Token.ofLine_separated htokens hopen hgap hgap' (fun done draft => ?_) ?_)
    · simp [Token.read, Token.isSeparator]
    · rintro _ ⟨⟩
  rw [parse, parse, parse, hcut, htokens]
  cases Token.ofLine line'.toList with
  | error fault =>
    constructor
    · rintro ⟨⟩
    · rintro ⟨_, _, _, ⟨⟩, _⟩
  | ok tokens' => simp only [Except.map, statements_append, mapM_append_eq_ok]

/-- **A pipe makes one command of two.** -/
theorem parse_pipe (htokens' : Token.ofLine line'.toList = .ok tokens')
    (hsemicolon : .semicolon ∉ tokens) (hsemicolon' : .semicolon ∉ tokens')
    (hfiles : ∀ op, .redirect op ∉ tokens) (hparse : parse line = .ok [.command c])
    (hparse' : parse line' = .ok [.command c']) :
    parse (line ++ gap ++ "|" ++ gap' ++ line') = .ok [.command (c.pipeInto c')] ∧
      (c.pipeInto c').chain.map Command.wordsAndEnv =
        c.chain.map Command.wordsAndEnv ++ c'.chain.map Command.wordsAndEnv := by
  obtain ⟨hsome, hmeans⟩ := lineDenotes_of_parse htokens hsemicolon hparse
  obtain ⟨-, hmeans'⟩ := lineDenotes_of_parse htokens' hsemicolon' hparse'
  have hending := hmeans.lastRedirects_eq_nil hfiles
  -- two bars in a row are another operator, but no command ends in a bar or begins with one
  have hbar : ∀ behind, gap'.toList ++ line'.toList ≠ '|' :: behind := by
    intro behind heq
    cases hblanks : gap'.toList with
    | cons blank blanks =>
      rw [hblanks] at heq hgap'
      have hblank := hgap' blank List.mem_cons_self
      rw [(List.cons.inj heq).1] at hblank
      cases hblank
    | nil =>
      rw [hblanks, List.nil_append] at heq
      rw [heq] at htokens'
      obtain hpipe | ⟨construct, hforeign⟩ := Token.head_of_bar htokens'
      · exact hmeans'.head_ne_pipe hpipe
      · exact hmeans'.no_foreign construct hforeign
  have hcut : Token.ofLine (line ++ gap ++ "|" ++ gap' ++ line').toList =
      .ok (tokens ++ .pipe :: tokens') := by
    refine (congrArg Token.ofLine (toList_separated line gap '|' gap' line')).trans
      ((Token.ofLine_separated htokens hopen hgap hgap'
        (fun done draft => Token.read_operator rfl hbar) ?_).trans (by rw [htokens']; rfl))
    rintro _ ⟨⟩
    exact hmeans.last_ne_pipe
  have hwhole : Token.semicolon ∉ tokens ++ .pipe :: tokens' := by
    intro hmem
    obtain hmem | hmem := List.mem_append.mp hmem
    · exact hsemicolon hmem
    · exact hsemicolon' ((List.mem_cons.mp hmem).resolve_left nofun)
  refine ⟨parse_eq_ok.mpr ⟨_, hcut, ?_⟩, (Command.wordsAndEnv_pipeInto hending).1⟩
  rw [statements_single hwhole (List.append_ne_nil_of_left_ne_nil hsome _)]
  exact .cons (hmeans.pipe hmeans' hending) .nil

/-- **Lines compose at separators.** Behind a line that is cut into tokens and has no comment in it, a
semicolon puts the nodes of any other line behind its own, and the line of both is read when each of
them is. A pipe between two lines that are one command each, the first without file redirects, makes
one command of them, whose chain is that of the first and behind it that of the second. Blanks
around the separator do not matter. -/
theorem parse_separated (line' : String) :
    (∀ nodes, parse (line ++ gap ++ ";" ++ gap' ++ line') = .ok nodes ↔
      ∃ front behind, parse line = .ok front ∧ parse line' = .ok behind ∧
        nodes = front ++ behind) ∧
    ∀ tokens' c c', Token.ofLine line'.toList = .ok tokens' → .semicolon ∉ tokens →
      .semicolon ∉ tokens' → (∀ op, .redirect op ∉ tokens) → parse line = .ok [.command c] →
        parse line' = .ok [.command c'] →
          parse (line ++ gap ++ "|" ++ gap' ++ line') = .ok [.command (c.pipeInto c')] ∧
          (c.pipeInto c').chain.map Command.wordsAndEnv =
            c.chain.map Command.wordsAndEnv ++ c'.chain.map Command.wordsAndEnv :=
  ⟨parse_semicolon htokens hopen hgap hgap' line', fun _ _ _ htokens' hsemicolon hsemicolon' hfiles
    hparse hparse' => parse_pipe htokens hopen hgap hgap' htokens' hsemicolon hsemicolon' hfiles hparse
      hparse'⟩

end

/-- A number sign within a word begins no comment, so the word goes on to the separator. -/
theorem parse_separated_hash :
    Token.ofLine "a#".toList = .ok [.word ['a', '#'] false] ∧ ¬ Token.HasComment "a#".toList ∧
    (∀ c ∈ " ".toList, Token.isSeparator c = true) ∧
    (∃ front behind, parse "a#" = .ok front ∧ parse "b" = .ok behind ∧
      parse ("a#" ++ " " ++ ";" ++ " " ++ "b") = .ok (front ++ behind)) ∧
    parse ("a#" ++ " " ++ "|" ++ " " ++ "b") =
      .ok [.command (.mk "a#" [] [] (.pipe (.mk "b" [] [] .nil) .nil))] := by
  have htokens : Token.ofLine "a#".toList = .ok [.word ['a', '#'] false] := rfl
  have hopen : ¬ Token.HasComment "a#".toList := by
    intro hsign
    obtain ⟨_, _, _, hsign, -⟩ := (Token.hasComment_iff _).mp hsign
    cases hsign
  have hblank : ∀ c ∈ " ".toList, Token.isSeparator c = true :=
    List.all_eq_true.mp rfl
  have hfront : parse "a#" = .ok [.command (.mk "a#" [] [] .nil)] := rfl
  have hbehind : parse "b" = .ok [.command (.mk "b" [] [] .nil)] := rfl
  obtain ⟨hsemicolon, hpipe⟩ := parse_separated htokens hopen hblank hblank "b"
  have hnodes := (hsemicolon _).mpr ⟨_, _, hfront, hbehind, rfl⟩
  refine ⟨htokens, hopen, hblank, ⟨_, _, hfront, hbehind, hnodes⟩, ?_⟩
  exact (hpipe [.word ['b'] false] _ _ rfl (by decide) (by decide) (fun op => by simp) hfront
    hbehind).1

end CommandLine

end Pipework
