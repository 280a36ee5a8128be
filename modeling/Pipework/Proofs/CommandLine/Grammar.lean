import Pipework.Proofs.CommandLine.Segments
import Pipework.Proofs.Dict

/-!
# The grammar of command lines

A line is read when it is cut into tokens and each of its statements is grammatical, and then every
statement becomes the node that it means (`parse_exact`).

* `Token.WellQuoted` — the text that is cut into tokens: `Token.read_ok_iff` says so of the reader
  wherever it stands, `Token.ofLine_ok_iff` of a whole line.
* `SegmentDenotes` — a segment and the command it becomes (`readSegment_eq_ok`).
* `LineDenotes` — a statement and its node (`readStatement_eq_ok`), and `Grammatical`, that there is
  one (`lineDenotes_iff_grammatical`).

The value of an assignment ends at its line: with a newline in it the word is no assignment and the
command begins there (`words_begin_at_newline`).
-/

namespace Pipework

namespace Token

/-! ## Text that is cut into tokens -/

/-- What can stand between double quotes: a backslash takes the character behind it along. -/
inductive DoubleQuotedText : List Char → Prop
  | nil : DoubleQuotedText []
  | plain {c : Char} {rest : List Char} :
    c ≠ '"' → c ≠ '\\' → DoubleQuotedText rest → DoubleQuotedText (c :: rest)
  | escaped {c : Char} {rest : List Char} : DoubleQuotedText rest →
    DoubleQuotedText ('\\' :: c :: rest)

/-- What ends a bare word. -/
def endsWord (c : Char) : Bool := isSeparator c || "|&;()><".toList.contains c

/-- **Text with all quotes closed and a character behind every backslash.** A number sign outside a
word hides the rest of the text; `inWord` says whether a word is being read. -/
inductive WellQuoted : Bool → List Char → Prop
  | nil {inWord : Bool} : WellQuoted inWord []
  | comment {rest : List Char} : WellQuoted false ('#' :: rest)
  | escaped {inWord : Bool} {c : Char} {rest : List Char} :
      WellQuoted true rest → WellQuoted inWord ('\\' :: c :: rest)
  | single {inWord : Bool} {inner rest : List Char} :
      '\'' ∉ inner → WellQuoted true rest → WellQuoted inWord ('\'' :: (inner ++ '\'' :: rest))
  | double {inWord : Bool} {inner rest : List Char} :
      DoubleQuotedText inner → WellQuoted true rest →
      WellQuoted inWord ('"' :: (inner ++ '"' :: rest))
  | bare {inWord : Bool} {c : Char} {rest : List Char} : c ∉ ['\'', '"', '\\'] →
      (c = '#' → inWord = true) → WellQuoted (!endsWord c) rest → WellQuoted inWord (c :: rest)

/-- What is left to read brings the reader to the end without a fault. -/
def EndsWithoutFault (draft : Option Draft) : Mode → List Char → Prop
  | .bare, cs => WellQuoted draft.isSome cs
  | .escaped, cs => ∃ c rest, cs = c :: rest ∧ WellQuoted true rest
  | .single, cs => ∃ inner rest, cs = inner ++ '\'' :: rest ∧ '\'' ∉ inner ∧ WellQuoted true rest
  | .double, cs => ∃ inner rest,
    cs = inner ++ '"' :: rest ∧ DoubleQuotedText inner ∧ WellQuoted true rest
  | .doubleEscaped, cs =>
    ∃ c inner rest, cs = c :: (inner ++ '"' :: rest) ∧ DoubleQuotedText inner ∧ WellQuoted true rest

variable {draft : Option Draft} {inWord : Bool} {c : Char} {rest : List Char}

theorem wellQuoted_bare_iff (hc : c ∉ ['\'', '"', '\\']) (hhash : c = '#' → inWord = true) :
    WellQuoted inWord (c :: rest) ↔ WellQuoted (!endsWord c) rest := by
  refine ⟨fun h => ?_, .bare hc hhash⟩
  cases h with
  | comment => cases hhash rfl
  | escaped | single | double => simp at hc
  | bare _ _ h => exact h

/-- A character that ends a word leaves none begun. -/
theorem endsWithoutFault_ending_iff (hc : endsWord c = true) :
    EndsWithoutFault draft .bare (c :: rest) ↔ EndsWithoutFault none .bare rest := by
  have hplain : c ∉ ['\'', '"', '\\'] := by
    rintro hmem
    simp only [List.mem_cons, List.not_mem_nil, or_false] at hmem
    rcases hmem with rfl | rfl | rfl <;> cases hc
  have hhash : c ≠ '#' := by
    rintro rfl
    cases hc
  rw [EndsWithoutFault, EndsWithoutFault, wellQuoted_bare_iff hplain fun h => absurd h hhash, hc]
  rfl

theorem wellQuoted_escaped_iff :
    WellQuoted inWord ('\\' :: rest) ↔ EndsWithoutFault draft .escaped rest := by
  refine ⟨fun h => ?_, fun ⟨c, rest', hrest, h⟩ => hrest ▸ .escaped h⟩
  cases h with
  | escaped h => exact ⟨_, _, rfl, h⟩
  | bare hc _ _ => simp at hc

theorem wellQuoted_single_iff :
    WellQuoted inWord ('\'' :: rest) ↔ EndsWithoutFault draft .single rest := by
  refine ⟨fun h => ?_, fun ⟨inner, rest', hrest, hinner, h⟩ => hrest ▸ .single hinner h⟩
  cases h with
  | single hinner h => exact ⟨_, _, rfl, hinner, h⟩
  | bare hc _ _ => simp at hc

theorem wellQuoted_double_iff :
    WellQuoted inWord ('"' :: rest) ↔ EndsWithoutFault draft .double rest := by
  refine ⟨fun h => ?_, fun ⟨inner, rest', hrest, hinner, h⟩ => hrest ▸ .double hinner h⟩
  cases h with
  | double hinner h => exact ⟨_, _, rfl, hinner, h⟩
  | bare hc _ _ => simp at hc

theorem endsWithoutFault_single_iff : EndsWithoutFault draft .single (c :: rest) ↔
    if c = '\'' then WellQuoted true rest else EndsWithoutFault draft .single rest := by
  split
  · rename_i hc
    subst hc
    refine ⟨fun ⟨inner, rest', hsplit, hinner, h⟩ => ?_, fun h => ⟨[], rest, rfl, nofun, h⟩⟩
    cases inner with
    | nil => cases hsplit; exact h
    | cons c inner => cases hsplit; simp at hinner
  · rename_i hc
    refine ⟨fun ⟨inner, rest', hsplit, hinner, h⟩ => ?_,
      fun ⟨inner, rest', hsplit, hinner, h⟩ => ?_⟩
    · cases inner with
      | nil => cases hsplit; exact absurd rfl hc
      | cons c inner =>
        cases hsplit
        exact ⟨inner, rest', rfl, fun hmem => hinner (List.mem_cons_of_mem c hmem), h⟩
    · exact ⟨c :: inner, rest', congrArg (c :: ·) hsplit,
        fun hmem => (List.mem_cons.mp hmem).elim (fun heq => hc heq.symm) hinner, h⟩

theorem endsWithoutFault_double_iff : EndsWithoutFault draft .double (c :: rest) ↔
    if c = '"' then WellQuoted true rest
    else if c = '\\' then EndsWithoutFault draft .doubleEscaped rest
    else EndsWithoutFault draft .double rest := by
  refine ⟨fun ⟨inner, rest', hsplit, hinner, h⟩ => ?_, fun h => ?_⟩
  · cases hinner with
    | nil => cases hsplit; exact h
    | plain hquote hescape hinner =>
      cases hsplit
      rw [if_neg hquote, if_neg hescape]
      exact ⟨_, rest', rfl, hinner, h⟩
    | escaped hinner =>
      cases hsplit
      exact ⟨_, _, rest', rfl, hinner, h⟩
  · split at h
    · rename_i hc
      exact ⟨[], rest, congrArg (· :: rest) hc, .nil, h⟩
    · rename_i hquote
      split at h
      · rename_i hc
        subst hc
        obtain ⟨c, inner, rest', rfl, hinner, h⟩ := h
        exact ⟨'\\' :: c :: inner, rest', rfl, .escaped hinner, h⟩
      · rename_i hescape
        obtain ⟨inner, rest', rfl, hinner, h⟩ := h
        exact ⟨c :: inner, rest', rfl, .plain hquote hescape hinner, h⟩

theorem endsWithoutFault_doubleEscaped_iff :
    EndsWithoutFault draft .doubleEscaped (c :: rest) ↔ EndsWithoutFault draft .double rest := by
  refine ⟨fun ⟨_, inner, rest', hsplit, h⟩ => ?_, fun ⟨inner, rest', hsplit, h⟩ => ?_⟩
  · cases hsplit
    exact ⟨inner, rest', rfl, h⟩
  · exact ⟨c, inner, rest', congrArg (c :: ·) hsplit, h⟩

/-- **The reader comes through exactly when what is left settles.** Between quotes a word has
begun. -/
theorem read_ok_iff {done : List Token} {draft : Option Draft} {mode : Mode} {cs : List Char}
    (hdraft : draft.isSome = true ∨ mode = .bare ∨ mode = .escaped) :
    (∃ tokens, read done draft mode cs = .ok tokens) ↔ EndsWithoutFault draft mode cs := by
  fun_induction read done draft mode cs with
  | case1 => exact iff_of_true ⟨_, rfl⟩ .nil
  | case2 => exact iff_of_false nofun nofun
  | case3 =>
    refine iff_of_false nofun ?_
    rintro ⟨inner, rest, h, -⟩
    cases inner <;> cases h
  | case4 =>
    refine iff_of_false nofun ?_
    rintro ⟨inner, rest, h, -⟩
    cases inner <;> cases h
  | case5 => exact iff_of_false nofun nofun
  | case6 done draft c rest ih =>
    rw [ih (Or.inl rfl)]
    exact ⟨fun h => ⟨c, rest, rfl, h⟩, fun ⟨_, _, hrest, h⟩ => by cases hrest; exact h⟩
  | case7 done draft rest ih =>
    rw [ih (Or.inr (Or.inl rfl)), endsWithoutFault_single_iff, if_pos rfl, EndsWithoutFault,
      hdraft.resolve_right (by decide)]
  | case8 done draft c rest hc ih =>
    rw [ih (Or.inl rfl), endsWithoutFault_single_iff, if_neg hc]
    rfl
  | case9 done draft rest ih =>
    rw [ih (Or.inr (Or.inl rfl)), endsWithoutFault_double_iff, if_pos rfl, EndsWithoutFault,
      hdraft.resolve_right (by decide)]
  | case10 done draft rest hc ih =>
    rw [ih (Or.inl (hdraft.resolve_right (by decide))), endsWithoutFault_double_iff, if_neg hc,
      if_pos rfl]
  | case11 done draft c rest hquote hescape ih =>
    rw [ih (Or.inl rfl), endsWithoutFault_double_iff, if_neg hquote, if_neg hescape]
    rfl
  | case12 done draft c rest hc ih =>
    rw [ih (Or.inl rfl), endsWithoutFault_doubleEscaped_iff]
    rfl
  | case13 done draft c rest hc ih =>
    rw [ih (Or.inl rfl), endsWithoutFault_doubleEscaped_iff]
    rfl
  | case14 done draft rest ih | case15 done draft rest ih | case16 done draft rest ih =>
    rw [ih (Or.inr (Or.inl rfl)), endsWithoutFault_ending_iff (by decide),
      endsWithoutFault_ending_iff (by decide)]
  | case17 done draft c rest _ _ _ hspace ih =>
    rw [ih (Or.inr (Or.inl rfl)), endsWithoutFault_ending_iff (by simp [endsWord, hspace])]
  | case18 done draft c rest _ _ _ _ hcomment =>
    obtain ⟨rfl, rfl⟩ := hcomment
    exact iff_of_true ⟨_, rfl⟩ .comment
  | case19 done draft rest _ _ _ _ _ ih =>
    rw [ih (Or.inl rfl)]
    exact wellQuoted_single_iff.symm
  | case20 done draft rest _ _ _ _ _ _ ih =>
    rw [ih (Or.inl rfl)]
    exact wellQuoted_double_iff.symm
  | case21 done draft rest _ _ _ _ _ _ _ ih =>
    rw [ih (Or.inl rfl)]
    exact wellQuoted_escaped_iff.symm
  | case22 _ _ _ _ _ _ _ _ _ _ _ ih
  | case23 _ _ _ _ _ _ _ _ _ _ _ _ ih
  | case24 _ _ _ _ _ _ _ _ _ _ _ _ _ ih
  | case26 _ _ _ _ _ _ _ _ _ _ _ _ _ _ _ ih
  | case27 _ _ _ _ _ _ _ _ _ _ _ _ _ _ _ _ ih =>
    rw [ih (Or.inr (Or.inl rfl)), endsWithoutFault_ending_iff (by decide)]
  | case25 done draft c rest _ _ _ _ _ _ _ _ _ _ _ hparen ih =>
    rw [ih (Or.inr (Or.inl rfl)),
      endsWithoutFault_ending_iff (by rcases hparen with rfl | rfl <;> decide)]
  | case28 done draft c rest _ _ _ hspace hhash hsingle hdouble hescape hpipe hamp hsemi hparen hgt
      hlt ih =>
    have hwithin : endsWord c = false := by
      simp_all [endsWord]
    have hword : c = '#' → draft.isSome = true := fun hc =>
      Option.isSome_iff_ne_none.mpr fun hnone => hhash ⟨hc, hnone⟩
    have hplain : c ∉ ['\'', '"', '\\'] := by
      simp [hsingle, hdouble, hescape]
    rw [ih (Or.inl rfl), EndsWithoutFault, EndsWithoutFault, wellQuoted_bare_iff hplain hword,
      hwithin]
    rfl

/-- **A line is cut into tokens exactly when its quotes are closed and no backslash ends it.** -/
theorem ofLine_ok_iff {line : List Char} :
    (∃ tokens, ofLine line = .ok tokens) ↔ WellQuoted false line :=
  read_ok_iff (Or.inr (Or.inl rfl))

end Token

/-! ## Commands -/

namespace Redirects

/-- Redirects to files, one behind the other. -/
def ofFiles : List (String × String) → Redirects
  | [] => .nil
  | (op, target) :: rest => .file op target (ofFiles rest)

theorem append_nil : ∀ r : Redirects, r.append .nil = r
  | .nil => rfl
  | .pipe next rest => congrArg (Redirects.pipe next) (append_nil rest)
  | .file op target rest => congrArg (Redirects.file op target) (append_nil rest)

theorem append_assoc : ∀ r s t : Redirects, (r.append s).append t = r.append (s.append t)
  | .nil, _, _ => rfl
  | .pipe next rest, s, t => congrArg (Redirects.pipe next) (append_assoc rest s t)
  | .file op target rest, s, t => congrArg (Redirects.file op target) (append_assoc rest s t)

end Redirects

/-- What a command says of itself and its redirects are all of it. -/
theorem Command.eq_of_wordsAndEnv {c d : Command} (hsaid : c.wordsAndEnv = d.wordsAndEnv)
    (hredirects : c.redirects = d.redirects) : c = d := by
  obtain ⟨name, args, env, redirects⟩ := c
  obtain ⟨name', args', env', redirects'⟩ := d
  cases hsaid
  cases hredirects
  rfl

namespace CommandLine

/-! ## Segments -/

/-- The file redirects of a segment with their targets. -/
def files : List Token → List (String × String)
  | [] => []
  | .redirect op :: .word target _ :: rest => (op, String.ofList target) :: files rest
  | _ :: rest => files rest

/-- Every redirect has a word right behind it. -/
def RedirectsHaveTargets (segment : List Token) : Prop :=
  ∀ before op behind, segment = before ++ .redirect op :: behind →
    ∃ target quoted rest, behind = .word target quoted :: rest

/-- A segment with a word behind every redirect, and a word that is its command. -/
structure WellFormed (segment : List Token) : Prop where
  targeted : RedirectsHaveTargets segment
  command : ∃ w ∈ ownWords segment, assigned? w = none

/-- A well-formed segment and the command that it says. -/
structure SegmentDenotes (segment : List Token) (c : Command) : Prop where
  wellFormed : WellFormed segment
  wordsAndEnv : c.wordsAndEnv = wordsAndEnvOf segment
  redirects : c.redirects = .ofFiles (files segment)

theorem split_at_equals {name : List Char} (value : List Char) (h : '=' ∉ name) :
    (name ++ '=' :: value).takeWhile (· != '=') = name ∧
      (name ++ '=' :: value).dropWhile (· != '=') = '=' :: value := by
  have hall : ∀ c ∈ name, (c != '=') = true := fun c hc => bne_iff_ne.mpr fun heq => h (heq ▸ hc)
  constructor
  · rw [List.takeWhile_append_of_pos hall, List.takeWhile_cons_of_neg (by decide), List.append_nil]
  · rw [List.dropWhile_append_of_pos hall, List.dropWhile_cons_of_neg (by decide)]

theorem eq_not_mem_of_isName {name : List Char} (h : Name.isName name = true) : '=' ∉ name :=
  fun hmem => absurd (Name.isPart_of_isName h '=' hmem) (by decide)

/-- **What a word has to be for an assignment.** Its value holds no newline. -/
theorem assigned?_eq_some_iff {text : List Char} {quoted : Bool} {name value : String} :
    assigned? (text, quoted) = some (name, value) ↔
      quoted = false ∧ text = name.toList ++ '=' :: value.toList ∧
        Name.isName name.toList = true ∧ '\n' ∉ value.toList := by
  cases quoted with
  | true => exact iff_of_false nofun nofun
  | false =>
    rw [assigned?, assignment?]
    refine Iff.trans ?_ (and_iff_right rfl).symm
    refine ⟨fun h => ?_, fun ⟨htext, hname, hvalue⟩ => ?_⟩
    · split at h
      · rename_i behind hbehind
        split at h
        · rename_i hparts
          obtain ⟨hname, hvalue⟩ := Bool.and_eq_true_iff.mp hparts
          cases h
          simp only [String.toList_ofList]
          refine ⟨?_, hname, by simpa using hvalue⟩
          rw [← hbehind, List.takeWhile_append_dropWhile]
        · cases h
      · cases h
    · obtain ⟨hbefore, hbehind⟩ := split_at_equals value.toList (eq_not_mem_of_isName hname)
      rw [htext, hbefore, hbehind]
      simp [hname, hvalue]

theorem redirectsHaveTargets_cons {token : Token} {rest : List Token}
    (htoken : ∀ op, token ≠ .redirect op) :
    RedirectsHaveTargets (token :: rest) ↔ RedirectsHaveTargets rest := by
  refine ⟨fun h before op behind hrest =>
    h (token :: before) op behind (congrArg (token :: ·) hrest),
    fun h before op behind hsplit => ?_⟩
  cases before with
  | nil =>
    cases hsplit
    exact absurd rfl (htoken op)
  | cons first before =>
    cases hsplit
    exact h before op behind rfl

theorem redirectsHaveTargets_word {text : List Char} {quoted : Bool} {rest : List Token} :
    RedirectsHaveTargets (.word text quoted :: rest) ↔ RedirectsHaveTargets rest :=
  redirectsHaveTargets_cons nofun

theorem redirectsHaveTargets_redirect {op : String} {rest : List Token} :
    RedirectsHaveTargets (.redirect op :: rest) ↔
      (∃ target quoted rest', rest = .word target quoted :: rest') ∧ RedirectsHaveTargets rest := by
  refine ⟨fun h => ⟨h [] op rest rfl, fun before op' behind hrest =>
    h (.redirect op :: before) op' behind (congrArg (Token.redirect op :: ·) hrest)⟩,
    fun ⟨hfirst, h⟩ before op' behind hsplit => ?_⟩
  cases before with
  | nil =>
    cases hsplit
    exact hfirst
  | cons first before =>
    cases hsplit
    exact h before op' behind rfl

variable {s : Segment} {segment : List Token} {c : Command}

/-- **A segment is read exactly when it is well-formed**, as far as it is not yet read. -/
theorem readSegment_ok_iff : (∃ c, readSegment s segment = .ok c) ↔
    RedirectsHaveTargets segment ∧ (s.words ≠ [] ∨ ∃ w ∈ ownWords segment, assigned? w = none) := by
  fun_induction readSegment s segment with
  | case1 s =>
    have htargeted : RedirectsHaveTargets [] := fun before _ _ h => by cases before <;> cases h
    rw [and_iff_right htargeted, Segment.command]
    have hnone : ¬ ∃ w ∈ ownWords [], assigned? w = none := by
      rintro ⟨w, hw, -⟩
      cases hw
    rw [or_iff_left hnone]
    split
    · rename_i hwords
      refine iff_of_false ?_ fun hs => hs (List.reverse_eq_nil_iff.mp hwords)
      rintro ⟨c, ⟨⟩⟩
    · rename_i name args hwords
      refine iff_of_true ⟨_, rfl⟩ fun hs => ?_
      rw [hs] at hwords
      cases hwords
  | case2 s text quoted rest ih =>
    rw [ih, redirectsHaveTargets_word, ownWords, List.exists_mem_cons_iff]
    refine and_congr_right fun _ => ?_
    by_cases hs : s.words = []
    · cases he : assigned? (text, quoted) with
      | none => simp [Segment.addWord_wordsAndEnv (Or.inr he)]
      | some e => simp [Segment.addWord_assigned hs he, hs]
    · simp [Segment.addWord_wordsAndEnv (Or.inl hs), hs]
  | case3 s op target quoted rest ih =>
    have htarget : ∃ target' quoted' rest',
        Token.word target quoted :: rest = .word target' quoted' :: rest' := ⟨_, _, _, rfl⟩
    rw [ih, redirectsHaveTargets_redirect, and_iff_right htarget, redirectsHaveTargets_word,
      ownWords]
    rfl
  | case4 s op behind hbehind =>
    refine iff_of_false ?_ fun h => ?_
    · rintro ⟨c, ⟨⟩⟩
    · obtain ⟨⟨target, quoted, rest, hrest⟩, -⟩ := redirectsHaveTargets_redirect.mp h.1
      exact hbehind target quoted rest hrest
  | case5 s token rest hword htaken hredirect ih =>
    have hown : ownWords (token :: rest) = ownWords rest := by
      cases token with
      | word text quoted => exact (hword text quoted rfl).elim
      | redirect op => exact (hredirect op rfl).elim
      | _ => rfl
    rw [ih, redirectsHaveTargets_cons hredirect, hown]

theorem readSegment_redirects_eq (h : readSegment s segment = .ok c) :
    c.redirects = s.redirects.append (.ofFiles (files segment)) := by
  fun_induction readSegment s segment with
  | case1 s =>
    rw [(Segment.wordsAndEnv_of_command h).2, files, Redirects.ofFiles, Redirects.append_nil]
  | case2 s text quoted rest ih =>
    have hkeep : (s.addWord text quoted).redirects = s.redirects := by
      unfold Segment.addWord
      split <;> rfl
    rw [ih h, hkeep]
    rfl
  | case3 s op target quoted rest ih =>
    rw [ih h, files, Redirects.ofFiles, Segment.addFile, Redirects.append_assoc]
    rfl
  | case4 => cases h
  | case5 s token rest hword htaken hredirect ih =>
    rw [ih h]
    cases token with
    | word text quoted => exact (hword text quoted rfl).elim
    | redirect op => exact (hredirect op rfl).elim
    | _ => rfl

/-- **A segment is read as the command that it says, and no other is read.** -/
theorem readSegment_eq_ok : readSegment .empty segment = .ok c ↔ SegmentDenotes segment c := by
  have hspoken : ∀ {c}, readSegment .empty segment = .ok c → SegmentDenotes segment c :=
    fun {c} h => by
    obtain ⟨htargeted, hcommand⟩ := readSegment_ok_iff.mp ⟨c, h⟩
    exact ⟨⟨htargeted, hcommand.resolve_left fun h => h rfl⟩, readSegment_wordsAndEnv h,
      readSegment_redirects_eq h⟩
  refine ⟨hspoken, fun h => ?_⟩
  obtain ⟨read, hread⟩ := (readSegment_ok_iff (s := .empty)).mpr
    ⟨h.wellFormed.targeted, Or.inr h.wellFormed.command⟩
  have hsame : read = c :=
    Command.eq_of_wordsAndEnv ((hspoken hread).wordsAndEnv.trans h.wordsAndEnv.symm)
      ((hspoken hread).redirects.trans h.redirects.symm)
  exact hsame ▸ hread

/-! ## Statements -/

/-- What is read and what it is read as. Of the constructs that are not run the first is named; the
commands of a pipeline join the chain one after the other. -/
inductive LineDenotes (statement : List Token) : Statement → Prop
  | foreign {before behind : List Token} {construct : Construct} :
      statement = before ++ .foreign construct :: behind → (∀ other, .foreign other ∉ before) →
        LineDenotes statement (.unsupported construct.name)
  | pipeline {first : Command} {others : List Command} : (∀ other, .foreign other ∉ statement) →
      List.Forall₂ SegmentDenotes (statement.splitOn .pipe) (first :: others) →
        LineDenotes statement (.command (others.foldl Command.pipeInto first))

/-- A statement with a construct that is not run, or all of whose segments are well-formed. -/
def Grammatical (statement : List Token) : Prop :=
  (∃ construct, .foreign construct ∈ statement) ∨
    ∀ segment ∈ statement.splitOn .pipe, WellFormed segment

theorem readPipeline_eq_ok {head : Command} {segments : List (List Token)} :
    readPipeline head segments = .ok c ↔
      ∃ others, List.Forall₂ SegmentDenotes segments others ∧
      c = others.foldl Command.pipeInto head := by
  induction segments generalizing head with
  | nil =>
    rw [readPipeline]
    refine ⟨fun h => ⟨[], .nil, (Except.ok.inj h).symm⟩, fun ⟨others, hothers, hc⟩ => ?_⟩
    cases hothers
    rw [hc]
    rfl
  | cons segment rest ih =>
    rw [readPipeline]
    refine ⟨fun h => ?_, fun ⟨others, hothers, hc⟩ => ?_⟩
    · split at h
      · rename_i next hnext
        obtain ⟨others, hothers, hc⟩ := ih.mp h
        exact ⟨next :: others, .cons (readSegment_eq_ok.mp hnext) hothers, hc⟩
      · cases h
    · cases hothers with
      | cons hnext hothers =>
        rw [readSegment_eq_ok.mpr hnext]
        exact ih.mpr ⟨_, hothers, hc⟩

theorem construct?_eq_some {statement : List Token} {construct : Construct} :
    construct? statement = some construct ↔
      ∃ before behind, statement = before ++ .foreign construct :: behind ∧
        ∀ other, .foreign other ∉ before := by
  rw [construct?, List.findSome?_eq_some_iff]
  refine ⟨fun ⟨before, token, behind, hsplit, htoken, hbefore⟩ => ?_,
    fun ⟨before, behind, hsplit, hbefore⟩ => ⟨before, _, behind, hsplit, rfl, fun token hmem => ?_⟩⟩
  · split at htoken
    · cases htoken
      exact ⟨before, behind, hsplit, fun other hmem => (nomatch hbefore _ hmem)⟩
    · cases htoken
  · split
    · exact absurd hmem (hbefore _)
    · rfl

theorem construct?_eq_none {statement : List Token} :
    construct? statement = none ↔ ∀ other, .foreign other ∉ statement := by
  rw [construct?, List.findSome?_eq_none_iff]
  refine ⟨fun h other hmem => (nomatch h _ hmem), fun h token hmem => ?_⟩
  split
  · exact absurd hmem (h _)
  · rfl

/-- **What a statement is read as is what it means.** -/
theorem readStatement_eq_ok {statement : List Token} {node : Statement} :
    readStatement statement = .ok node ↔ LineDenotes statement node := by
  rw [readStatement]
  split
  · rename_i construct hconstruct
    obtain ⟨before, behind, hsplit, hbefore⟩ := construct?_eq_some.mp hconstruct
    refine ⟨fun h => ?_, fun h => ?_⟩
    · cases h
      exact .foreign hsplit hbefore
    · cases h with
      | foreign hsplit' hbefore' =>
        cases hconstruct.symm.trans (construct?_eq_some.mpr ⟨_, _, hsplit', hbefore'⟩)
        rfl
      | pipeline hnone _ => cases hconstruct.symm.trans (construct?_eq_none.mpr hnone)
  · rename_i hnone
    have hmeans : LineDenotes statement node ↔ ∃ first others,
        List.Forall₂ SegmentDenotes (statement.splitOn .pipe) (first :: others) ∧
          node = .command (others.foldl Command.pipeInto first) := by
      refine ⟨fun h => ?_, fun ⟨first, others, hspoken, hnode⟩ =>
        hnode ▸ .pipeline (construct?_eq_none.mp hnone) hspoken⟩
      cases h with
      | foreign hsplit hbefore =>
        cases hnone.symm.trans (construct?_eq_some.mpr ⟨_, _, hsplit, hbefore⟩)
      | pipeline _ hspoken => exact ⟨_, _, hspoken, rfl⟩
    rw [hmeans]
    split
    · rename_i hsplit
      exact absurd hsplit (List.splitOn_ne_nil _ _)
    · rename_i segment rest hsplit
      rw [hsplit]
      refine ⟨fun h => ?_, fun ⟨first, others, hspoken, hnode⟩ => ?_⟩
      · split at h
        · rename_i head hhead
          cases hrest : readPipeline head rest with
          | error why =>
            rw [hrest] at h
            cases h
          | ok c =>
            rw [hrest] at h
            obtain ⟨others, hothers, hc⟩ := readPipeline_eq_ok.mp hrest
            cases h
            exact ⟨head, others, .cons (readSegment_eq_ok.mp hhead) hothers, congrArg _ hc⟩
        · cases h
      · obtain ⟨hfirst, hothers⟩ := List.forall₂_cons.mp hspoken
        rw [readSegment_eq_ok.mpr hfirst, hnode]
        have hrest : readPipeline first rest = .ok (others.foldl Command.pipeInto first) :=
          readPipeline_eq_ok.mpr ⟨others, hothers, rfl⟩
        exact congrArg (Except.map Statement.command) hrest

theorem segmentDenotes_iff_wellFormed : (∃ c, SegmentDenotes segment c) ↔ WellFormed segment := by
  refine ⟨fun ⟨c, h⟩ => h.wellFormed, fun h => ?_⟩
  obtain ⟨c, hread⟩ := (readSegment_ok_iff (s := .empty)).mpr ⟨h.targeted, Or.inr h.command⟩
  exact ⟨c, readSegment_eq_ok.mp hread⟩

/-- **A statement means something exactly when it is grammatical.** -/
theorem lineDenotes_iff_grammatical {statement : List Token} :
    (∃ node, LineDenotes statement node) ↔ Grammatical statement := by
  refine ⟨fun ⟨node, h⟩ => ?_, fun h => ?_⟩
  · cases h with
    | foreign hsplit _ => exact Or.inl ⟨_, hsplit ▸ List.mem_append_right _ List.mem_cons_self⟩
    | pipeline _ hspoken =>
      exact Or.inr fun segment hmem =>
        segmentDenotes_iff_wellFormed.mp ((exists_forall₂_iff.mp ⟨_, hspoken⟩) segment hmem)
  · cases hconstruct : construct? statement with
    | some construct =>
      obtain ⟨before, behind, hsplit, hbefore⟩ := construct?_eq_some.mp hconstruct
      exact ⟨_, .foreign hsplit hbefore⟩
    | none =>
      have hnone := construct?_eq_none.mp hconstruct
      obtain ⟨construct, hmem⟩ | hsegments := h
      · exact absurd hmem (hnone construct)
      · obtain ⟨commands, hspoken⟩ := exists_forall₂_iff.mpr fun segment hmem =>
          segmentDenotes_iff_wellFormed.mpr (hsegments segment hmem)
        cases commands with
        | nil => exact absurd (List.forall₂_nil_right_iff.mp hspoken) (List.splitOn_ne_nil _ _)
        | cons first others => exact ⟨_, .pipeline hnone hspoken⟩

theorem parse_eq_ok {line : String} {nodes : List Statement} :
    parse line = .ok nodes ↔ ∃ tokens, Token.ofLine line.toList = .ok tokens ∧
      List.Forall₂ LineDenotes (statements tokens) nodes := by
  have hread : (fun statement node => readStatement statement = .ok node) = LineDenotes :=
    funext₂ fun _ _ => propext readStatement_eq_ok
  rw [parse]
  split
  · rename_i tokens htokens
    rw [mapM_eq_ok, hread]
    refine ⟨fun h => ⟨tokens, htokens, h⟩, fun ⟨_, htokens', h⟩ => ?_⟩
    cases htokens.symm.trans htokens'
    exact h
  · rename_i fault hfault
    exact iff_of_false nofun fun ⟨_, htokens, _⟩ => nomatch hfault.symm.trans htokens

/-! ## Lines -/

/-- **The parser accepts its grammar and nothing else, and reads what the line means.** Text is cut into
tokens when its quotes are closed and no backslash ends it. A line that is cut is refused only for
a statement that is not grammatical, and otherwise has one node for each statement, in order. An
assignment is a word `NAME=value` that does not start with a quote and has no newline in its value;
of two to one name the later counts. -/
theorem parse_exact (line : String) :
    ((∃ tokens, Token.ofLine line.toList = .ok tokens) ↔ Token.WellQuoted false line.toList) ∧
      ((∃ nodes, parse line = .ok nodes) ↔
        ∃ tokens, Token.ofLine line.toList = .ok tokens ∧
          ∀ statement ∈ statements tokens, Grammatical statement) ∧
      (∀ nodes, parse line = .ok nodes ↔
        ∃ tokens, Token.ofLine line.toList = .ok tokens ∧
          List.Forall₂ LineDenotes (statements tokens) nodes) ∧
      (∀ text quoted name value, assigned? (text, quoted) = some (name, value) ↔
        quoted = false ∧ text = name.toList ++ '=' :: value.toList ∧
          Name.isName name.toList = true ∧ '\n' ∉ value.toList) ∧
      ∀ segment name, Dict.get? (wordsAndEnvOf segment).2 name =
        (assignments (ownWords segment)).reverse.lookup name := by
  refine ⟨Token.ofLine_ok_iff, ?_, ?_, fun _ _ _ _ => assigned?_eq_some_iff,
    fun segment name => Dict.get?_ofList _ name⟩
  · constructor
    · rintro ⟨nodes, h⟩
      obtain ⟨tokens, htokens, hmeans⟩ := parse_eq_ok.mp h
      exact ⟨tokens, htokens, fun statement hmem =>
        lineDenotes_iff_grammatical.mp (exists_forall₂_iff.mp ⟨nodes, hmeans⟩ statement hmem)⟩
    · rintro ⟨tokens, htokens, hgrammatical⟩
      obtain ⟨nodes, hmeans⟩ := exists_forall₂_iff.mpr fun statement hmem =>
        lineDenotes_iff_grammatical.mpr (hgrammatical statement hmem)
      exact ⟨nodes, parse_eq_ok.mpr ⟨tokens, htokens, hmeans⟩⟩
  · exact fun nodes => parse_eq_ok

/-- A word `NAME=value`, whatever the value, that does not start with a quote. -/
def namesValue (w : List Char × Bool) : Bool :=
  !w.2 && w.1.contains '=' && Name.isName (w.1.takeWhile (· != '='))

/-- With a newline in its value a leading `NAME=value` is taken for the command. -/
theorem words_begin_at_newline :
    ¬ ∀ (line : String) (c : Command) (tokens segment : List Token),
      parse line = .ok [.command c] → Token.ofLine line.toList = .ok tokens →
        statements tokens = [segment] → Token.pipe ∉ segment →
          c.words = ((ownWords segment).dropWhile namesValue).map fun w => String.ofList w.1 := by
  intro h
  have hline := h "A='x\ny' echo hi" (.mk "A=x\ny" ["echo", "hi"] [] .nil)
    [.word "A=x\ny".toList false, .word "echo".toList false, .word "hi".toList false]
    [.word "A=x\ny".toList false, .word "echo".toList false, .word "hi".toList false]
    rfl rfl rfl (by decide)
  exact absurd hline (by decide)

end CommandLine

end Pipework
