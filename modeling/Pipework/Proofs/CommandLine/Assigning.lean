import Pipework.Proofs.CommandLine.Quoting

/-!
# Writing assignments

A finite map can be written in front of a command, each entry as its name, an equals sign and the
value in quotes. The line is read back as the command with this map for its environment, in whatever
order the entries stand, as long as every value is on one line (`assignments_read_back`). The first
value with a newline in it is where the command begins.

* `Token.read_plain` — bare characters join the word being read.
* `Token.tokenizesTo_assignment` — name, equals sign and value are one word, that is not a quoted
  one.
* `parse_words` — a line of words is the command they say.
* `commandWords_assigning`, `assignments_assigning` — which of the entries are assignments.
-/

namespace Pipework

/-! ## Assignments -/

/-- A name and the value that it is given, with the quotes of the value. -/
structure Assignment where
  name : String
  value : QuotedWord
  deriving DecidableEq, Repr

namespace Assignment

def written (a : Assignment) : String := a.name ++ "=" ++ a.value.written

/-- The word that is read. It starts with the name, so that it is not a quoted one. -/
def word (a : Assignment) : List Char × Bool := (a.name.toList ++ '=' :: a.value.text.toList, false)

def entry (a : Assignment) : String × String := (a.name, a.value.text)

/-- The value is on one line. -/
def OneLine (a : Assignment) : Prop := '\n' ∉ a.value.text.toList

instance (a : Assignment) : Decidable a.OneLine := inferInstanceAs (Decidable (_ ∉ _))

end Assignment

namespace Token

variable {done : List Token}

/-- What means something to the reader outside quotes. -/
def special : List Char :=
  [' ', '\t', '\r', '\n', '|', '&', ';', '(', ')', '>', '<', '\'', '"', '\\', '#']

theorem not_special_of_isPart {c : Char} (h : Name.isPart c = true) : c ∉ special := by
  have hspecial : special.all (fun c => !Name.isPart c) = true := by decide
  intro hmem
  have hpart := List.all_eq_true.mp hspecial c hmem
  simp [h] at hpart

theorem not_special_of_isName {name : List Char} (h : Name.isName name = true) :
    ∀ c ∈ name, c ∉ special := fun c hc => not_special_of_isPart (Name.isPart_of_isName h c hc)

theorem read_plain_char {c : Char} (h : c ∉ special) (draft : Option Draft) (rest : List Char) :
    read done draft .bare (c :: rest) = read done (put c draft) .bare rest := by
  simp only [special, List.mem_cons, List.not_mem_nil, or_false, not_or] at h
  rw [read]
  · simp [isSeparator, h]
  all_goals simp [h]

/-- **Bare characters join the word being read.** -/
theorem read_plain {text : List Char} (h : ∀ c ∈ text, c ∉ special) (d : Draft)
    (rest : List Char) :
    read done (some d) .bare (text ++ rest) = read done (some (d.take text)) .bare rest := by
  induction text generalizing d with
  | nil => rfl
  | cons c text ih =>
    obtain ⟨hc, htext⟩ := List.forall_mem_cons.mp h
    rw [List.cons_append, read_plain_char hc, Draft.take_cons, ← ih htext]
    rfl

/-- **A name, an equals sign and a quoted value are read as one word.** -/
theorem read_assignment {a : Assignment} (hname : Name.isName a.name.toList = true)
    (rest : List Char) :
    read done none .bare (a.written.toList ++ rest) =
      read done (some ⟨a.word.1.reverse, false⟩) .bare rest := by
  obtain ⟨name, value⟩ := a
  have hplain := not_special_of_isName hname
  cases hcs : name.toList with
  | nil =>
    rw [hcs] at hname
    cases hname
  | cons c cs =>
    obtain ⟨hc, hcs'⟩ := List.forall_mem_cons.mp (hcs ▸ hplain)
    have hequals : '=' ∉ special := by decide
    simp only [Assignment.written, Assignment.word, String.toList_append, hcs, List.append_assoc,
      List.cons_append]
    rw [read_plain_char hc, put, read_plain hcs']
    simp [read_plain_char hequals, put, read_written, Draft.take]

theorem tokenizesTo_assignment {a : Assignment} (hname : Name.isName a.name.toList = true) :
    TokenizesTo a.written.toList [.word a.word.1 a.word.2] where
  space done rest := by
    rw [read_assignment hname]
    simp [read, isSeparator, close, Assignment.word]
  last done := by
    rw [← List.append_nil a.written.toList, read_assignment hname]
    simp [read, close, Assignment.word]

end Token

namespace CommandLine

/-! ## Lines of words -/

/-- **A line of words is the command that they say.** -/
theorem parse_words {line : String} {ws : List (List Char × Bool)} {name : String}
    {args : List String} (hline : Token.ofLine line.toList = .ok (ws.map wordToken))
    (hwords : commandWords ws = name :: args) :
    parse line = .ok [.command (.mk name args (.ofList (assignments ws)) .nil)] := by
  have hnone : ∀ token, (∀ w, wordToken w ≠ token) → token ∉ ws.map wordToken := by
    intro token hother hmem
    obtain ⟨w, -, hw⟩ := List.mem_map.mp hmem
    exact hother w hw
  have hsemicolon : .semicolon ∉ ws.map wordToken := hnone _ fun w h => by cases h
  have hpipe : .pipe ∉ ws.map wordToken := hnone _ fun w h => by cases h
  have hforeign : ∀ construct, .foreign construct ∉ ws.map wordToken :=
    fun construct => hnone _ fun w h => by cases h
  have hstatements : statements (ws.map wordToken) = [ws.map wordToken] := by
    rw [statements, List.splitOn_eq_singleton hsemicolon]
    refine List.filter_cons_of_pos ?_
    cases ws with
    | nil => cases hwords
    | cons => rfl
  have hsegments : List.Forall₂ SegmentDenotes ((ws.map wordToken).splitOn .pipe)
      [.mk name args (.ofList (assignments ws)) .nil] := by
    rw [List.splitOn_eq_singleton hpipe]
    exact .cons (segmentDenotes_words hwords) .nil
  refine parse_eq_ok.mpr ⟨_, hline, ?_⟩
  rw [hstatements]
  exact .cons (.pipeline hforeign hsegments) .nil

/-! ## Assignments in front of a command -/

variable {a : Assignment} {as : List Assignment}

/-- **With a newline in its value an entry is no assignment.** -/
theorem assigned?_word (hname : Name.isName a.name.toList = true) :
    assigned? a.word = if a.OneLine then some a.entry else none := by
  obtain ⟨hbefore, hbehind⟩ := split_at_equals a.value.text.toList (eq_not_mem_of_isName hname)
  rw [Assignment.word, assigned?, assignment?, hbefore, hbehind]
  by_cases hline : a.OneLine
  · have hvalue : '\n' ∉ a.value.text.toList := hline
    simp [hname, hline, hvalue, Assignment.entry]
  · have hvalue : '\n' ∈ a.value.text.toList := not_not.mp hline
    simp [hline, hvalue]

/-- The words of a line that has these entries in front of a command. -/
def assigningWords (as : List Assignment) (c : QuotedCommand) : List (List Char × Bool) :=
  as.map Assignment.word ++ c.words.map fun w => (w.text.toList, true)

/-- **The command begins at the first entry that is no assignment.** -/
theorem commandWords_assigning (hnames : ∀ a ∈ as, Name.isName a.name.toList = true)
    (c : QuotedCommand) : commandWords (assigningWords as c) =
      (as.dropWhile (·.OneLine)).map (fun a => String.ofList a.word.1) ++
        c.words.map QuotedWord.text := by
  induction as with
  | nil => exact (commandWords_quoted c.words).1
  | cons a as ih =>
    obtain ⟨hname, hrest⟩ := List.forall_mem_cons.mp hnames
    have hassigned := assigned?_word hname
    by_cases hline : a.OneLine
    · rw [List.dropWhile_cons_of_pos (by simpa using hline), ← ih hrest]
      simp [commandWords, assigningWords, hassigned, hline]
    · rw [List.dropWhile_cons_of_neg (by simpa using hline)]
      simp [commandWords, assigningWords, hassigned, hline, Function.comp_def]

theorem assignments_assigning (hnames : ∀ a ∈ as, Name.isName a.name.toList = true)
    (c : QuotedCommand) : assignments (assigningWords as c) =
      (as.takeWhile (·.OneLine)).map Assignment.entry := by
  induction as with
  | nil => exact (commandWords_quoted c.words).2
  | cons a as ih =>
    obtain ⟨hname, hrest⟩ := List.forall_mem_cons.mp hnames
    have hassigned := assigned?_word hname
    by_cases hline : a.OneLine
    · rw [List.takeWhile_cons_of_pos (by simpa using hline), List.map_cons, ← ih hrest]
      simp [assignments, assigningWords, hassigned, hline]
    · rw [List.takeWhile_cons_of_neg (by simpa using hline)]
      simp [assignments, assigningWords, hassigned, hline]

/-- The entries and the words of the command with spaces between them. -/
def assigningLine (as : List Assignment) (c : QuotedCommand) : String :=
  " ".intercalate (as.map Assignment.written ++ c.words.map QuotedWord.written)

theorem ofLine_assigning (hnames : ∀ a ∈ as, Name.isName a.name.toList = true)
    (c : QuotedCommand) :
    Token.ofLine (assigningLine as c).toList = .ok ((assigningWords as c).map wordToken) := by
  have hentries : List.Forall₂ (fun piece token => Token.TokenizesTo piece.toList [token])
      (as.map Assignment.written) ((as.map Assignment.word).map wordToken) := by
    rw [List.map_map]
    exact List.forall₂_map_left_iff.mpr (List.forall₂_map_right_iff.mpr
      (List.forall₂_same.mpr fun a ha => Token.tokenizesTo_assignment (hnames a ha)))
  have hpieces : as.map Assignment.written ++ c.words.map QuotedWord.written ≠ [] :=
    List.append_ne_nil_of_right_ne_nil _ (List.cons_ne_nil _ _)
  rw [assigningWords, List.map_append, ← tokens_eq_words]
  exact (Token.tokenizesTo_pieces
    (List.rel_append hentries (Token.tokenizesTo_words c.words)) hpieces).ofLine

theorem parse_assigning {c : QuotedCommand} {taken kept : List Assignment} {name : String}
    {args : List String} (hnames : ∀ a ∈ as, Name.isName a.name.toList = true)
    (htaken : as.takeWhile (·.OneLine) = taken) (hkept : as.dropWhile (·.OneLine) = kept)
    (hwords : kept.map (fun a => String.ofList a.word.1) ++ c.words.map QuotedWord.text =
      name :: args) :
    parse (assigningLine as c) =
      .ok [.command (.mk name args (.ofList (taken.map Assignment.entry)) .nil)] := by
  rw [← htaken, ← assignments_assigning hnames c]
  rw [← hkept, ← commandWords_assigning hnames c] at hwords
  exact parse_words (ofLine_assigning hnames c) hwords

/-- **A map that is written in front of a command is read back as its environment, exactly when every
value is on one line.** The entries stand in any order and the values in quotes of either kind. The
first value with a newline in it makes its entry the command: the entries before it are the
environment, and what stands behind it are the arguments. -/
theorem assignments_read_back {env : Dict String} (c : QuotedCommand) (hsorted : env.Sorted)
    (hentries : (as.map Assignment.entry).Perm env)
    (hnames : ∀ a ∈ as, Name.isName a.name.toList = true) :
    (parse (assigningLine as c) =
        .ok [.command (.mk c.name.text (c.args.map QuotedWord.text) env .nil)] ↔
      ∀ a ∈ as, a.OneLine) ∧
    ∀ before broken behind, as = before ++ broken :: behind → (∀ a ∈ before, a.OneLine) →
      ¬ broken.OneLine → parse (assigningLine as c) =
        .ok [.command (.mk (String.ofList broken.word.1)
          (behind.map (fun a => String.ofList a.word.1) ++ c.words.map QuotedWord.text)
          (.ofList (before.map Assignment.entry)) .nil)] := by
  refine ⟨⟨fun hparse => ?_, fun hlines => ?_⟩, fun before broken behind hsplit hbefore hnot => ?_⟩
  · cases hdrop : as.dropWhile (·.OneLine) with
    | nil => simpa using List.dropWhile_eq_nil_iff.mp hdrop
    | cons broken behind =>
      -- two commands with these words have not the same number of arguments
      have hbroken := hparse.symm.trans (parse_assigning hnames rfl hdrop rfl)
      have hargs : c.args.map QuotedWord.text =
          behind.map (fun a => String.ofList a.word.1) ++ c.words.map QuotedWord.text := by
        injection hbroken with hnodes
        injection hnodes with hnode
        injection hnode with hcommand
        injection hcommand
      have hlength := congrArg List.length hargs
      simp only [QuotedCommand.words, List.length_append, List.length_map,
        List.length_cons] at hlength
      omega
  · have hkept : as.dropWhile (·.OneLine) = [] :=
      List.dropWhile_eq_nil_iff.mpr (by simpa using hlines)
    have htaken : as.takeWhile (·.OneLine) = as :=
      List.takeWhile_eq_self_iff.mpr (by simpa using hlines)
    rw [← hsorted.ofList_eq hentries]
    exact parse_assigning hnames htaken hkept rfl
  · have hkept : as.dropWhile (·.OneLine) = broken :: behind := by
      rw [hsplit, List.dropWhile_append_of_pos (by simpa using hbefore),
        List.dropWhile_cons_of_neg (by simpa using hnot)]
    have htaken : as.takeWhile (·.OneLine) = before := by
      rw [hsplit, List.takeWhile_append_of_pos (by simpa using hbefore),
        List.takeWhile_cons_of_neg (by simpa using hnot), List.append_nil]
    exact parse_assigning hnames htaken hkept rfl

/-- Two values with what means something to a reader, the later name in front. -/
theorem assignments_read_back_quote :
    let two : List Assignment := [⟨"b", ⟨"it's", .single⟩⟩, ⟨"A_1", ⟨"x=1; #", .single⟩⟩]
    let echo : QuotedCommand := ⟨⟨"echo", .single⟩, [⟨"C=2", .single⟩]⟩
    assigningLine two echo = "b='it'\\''s' A_1='x=1; #' 'echo' 'C=2'" ∧
      parse (assigningLine two echo) =
        .ok [.command (.mk "echo" ["C=2"] [("A_1", "x=1; #"), ("b", "it's")] .nil)] := by
  intro two echo
  refine ⟨by decide, ?_⟩
  have hsorted : Dict.Sorted [("A_1", "x=1; #"), ("b", "it's")] :=
    List.pairwise_pair.mpr (String.lt_iff_toList_lt.mpr (by decide))
  have hentries : (two.map Assignment.entry).Perm [("A_1", "x=1; #"), ("b", "it's")] :=
    .swap _ _ _
  exact (assignments_read_back echo hsorted hentries (by decide)).1.mpr (by decide)

/-- A value that holds a newline does not come back: its entry is the command. -/
theorem newline_not_read_back :
    ¬ ∀ (as : List Assignment) (c : QuotedCommand) (env : Dict String), env.Sorted →
      (as.map Assignment.entry).Perm env → (∀ a ∈ as, Name.isName a.name.toList = true) →
        parse (assigningLine as c) =
          .ok [.command (.mk c.name.text (c.args.map QuotedWord.text) env .nil)] := by
  intro h
  have hline := h [⟨"A", ⟨"x\ny", .single⟩⟩] ⟨⟨"echo", .single⟩, [⟨"hi", .single⟩]⟩
    [("A", "x\ny")] (List.pairwise_singleton _ _) (.refl _) (by decide)
  have hread : parse "A='x\ny' 'echo' 'hi'" =
      .ok [.command (.mk "A=x\ny" ["echo", "hi"] [] .nil)] := rfl
  exact absurd (hread.symm.trans hline) (by simp)

end CommandLine

end Pipework
